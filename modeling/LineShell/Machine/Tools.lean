import LineShell.Machine.Tools.Comparing
import LineShell.Machine.Tools.Computing
import LineShell.Machine.Tools.Copying
import LineShell.Machine.Tools.Cutting
import LineShell.Machine.Tools.Directories
import LineShell.Machine.Tools.Durations
import LineShell.Machine.Tools.Environments
import LineShell.Machine.Tools.Lines
import LineShell.Machine.Tools.Linking
import LineShell.Machine.Tools.Listing
import LineShell.Machine.Tools.Moving
import LineShell.Machine.Tools.Ordering
import LineShell.Machine.Tools.Parts
import LineShell.Machine.Tools.Printing
import LineShell.Machine.Tools.Processes
import LineShell.Machine.Tools.Removal
import LineShell.Machine.Tools.Searching
import LineShell.Machine.Tools.Sequences
import LineShell.Machine.Tools.Testing
import LineShell.Machine.Tools.Touching
import LineShell.Machine.Tools.Translating
import LineShell.Machine.Interpreter

/-!
# The programs of a machine

Every program that a machine comes with takes over a job and runs to its end.
-/

namespace LineShell.Machine.Tools

def run (launch : Launcher) (tool : Tool) (job : Job) (args : List Octets) : Ended :=
  match tool with
  | .basename => runAct (basename args) job
  | .bracket => runAct (bracket args) job
  | .cat => runAct (cat args) job
  | .chmod => runAct (chmod args) job
  | .cmp => runAct (cmp args) job
  | .cp => runAct (cp args) job
  | .cut => runAct (cut args) job
  | .dirname => runAct (dirname args) job
  | .echo => runAct (echo args) job
  | .egrep => runAct (grepWith "-E" args) job
  | .env => env launch job args
  | .expr => runAct (expr args) job
  | .fail => runAct (return 1) job
  | .fgrep => runAct (grepWith "-F" args) job
  | .grep => runAct (grep args) job
  | .head => runAct (head args) job
  | .ln => runAct (ln args) job
  | .ls => runAct (ls args) job
  | .mkdir => runAct (mkdir args) job
  | .mv => runAct (mv args) job
  | .nl => runAct (nl args) job
  | .printenv => runAct (printenv args) job
  | .printf => runAct (printf args) job
  | .pwd => runAct (pwd args) job
  | .readlink => runAct (readlink args) job
  | .realpath => runAct (realpath args) job
  | .rev => runAct (rev args) job
  | .rgrep => runAct (grepWith "-r" args) job
  | .rm => runAct (rm args) job
  | .rmdir => runAct (rmdir args) job
  | .seq => runAct (seq args) job
  | .sh => Interpreter.run launch job args
  | .sleep => runAct (sleep args) job
  | .sort => runAct (sort args) job
  | .succeed => runAct (return 0) job
  | .tac => runAct (tac args) job
  | .tail => runAct (tail args) job
  | .tee => runAct (tee args) job
  | .test => runAct (test args) job
  | .touch => runAct (touch args) job
  | .tr => runAct (tr args) job
  | .uniq => runAct (uniq args) job
  | .wc => runAct (wc args) job
  | .who => runAct (who args) job
  | .xargs => runAct (xargs launch args) job

end LineShell.Machine.Tools

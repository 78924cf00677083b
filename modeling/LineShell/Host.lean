import LineShell.Event

/-!
# Hosts

A session asks its host for two things: to resolve a change of directory, and to run a program to its
end. A program may change the world but not the directory of the shell that launched it.
-/

namespace LineShell

/-- What a system does for the sessions on it. -/
structure Host (Dir World : Type) where
  chdir : World → Dir → String → Except IoError Dir × World
  launch : World → Dir → ArgumentVector → Except IoError Child × World

end LineShell

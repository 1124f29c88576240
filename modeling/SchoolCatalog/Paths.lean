import SchoolCatalog.Text.Blank

/-!
# Paths

A path is a list of steps between slashes. It is followed by its letters alone: a step of one dot
stays, one of two dots goes back.

Main statement: `follow_name`, a plain name is walked as it stands.
-/

namespace SchoolCatalog.Paths

/-- Follows one step, on the steps walked so far, the last first. -/
def follow (walked : List String) (step : String) : List String :=
  if step = "" || step = "." then walked
  else if step = ".." then
    match walked with
    | [] => [".."]
    | last :: rest => if last = ".." then ".." :: walked else rest
  else step :: walked

/-- The steps of a path without detours; it begins with two dots where it leads out of the folder that
it is followed from. -/
def steps (path : String) : List String := ((Text.split '/' path).foldl follow []).reverse

/-- The steps of a path from the root, out of which no step leads. -/
def stepsFromRoot (path : String) : List String := (steps path).dropWhile (· == "..")

def isAbsolute (path : String) : Bool := path.startsWith "/"

def holdsNul (path : String) : Bool := path.toList.contains (Char.ofNat 0)

/-- What stands before the name of a file in a folder: the steps to the folder as they are written, but
for those of one dot. Two slashes in front stay two. -/
def front (folder : String) : String :=
  let steps := (Text.split '/' folder).filter fun step => step != "" && step != "."
  let root :=
    if folder.startsWith "//" && !folder.startsWith "///" then "//"
    else if isAbsolute folder then "/" else ""
  root ++ String.join (steps.map (· ++ "/"))

/-- The most bytes of a name of a file or folder. -/
def longestName : Nat := 255

/-- The folders at and below the root that every machine has. -/
def standardFolders : List (List String) :=
  [["tmp"], ["var"], ["var", "log"], ["var", "tmp"], ["etc"], ["usr"], ["usr", "local"], ["home"],
    ["root"], ["opt"], ["dev"], ["dev", "shm"], ["run"], ["srv"], ["mnt"], ["media"], ["boot"],
    ["proc"], ["sys"], ["bin"], ["sbin"], ["lib"]]

/-- Whether steps lead to a folder that is there: the working folder and those around it, the root, or
a standard folder. -/
def isFolder (absolute : Bool) (steps : List String) : Bool :=
  let below := steps.dropWhile (· == "..")
  below.isEmpty || (absolute && standardFolders.contains below)

theorem follow_name {walked : List String} {step : String} (h : step ≠ "") (h1 : step ≠ ".")
    (h2 : step ≠ "..") : follow walked step = step :: walked := by
  simp [follow, h, h1, h2]

end SchoolCatalog.Paths

/-!
# Paths

Paths to files: names separated by slashes.

* `steps` are the names on a path, one for each slash and one more, so that two slashes in a row and a slash at the end
  show up as empty names;
* `normalPath` is a path without empty names, `.` and `..`, as far as that can be done without looking at files;
* `absolutePath` is a path as seen from the root, given the directory from which it is taken;
* `homePath` replaces a `~` in front, also with the name of a user behind it, by a home directory.
-/

namespace Chip8

/-- The names on a path, as lists of characters. -/
def splitSlashes : List Char → List (List Char)
  | [] => [[]]
  | '/' :: rest => [] :: splitSlashes rest
  | c :: rest =>
    match splitSlashes rest with
    | first :: more => (c :: first) :: more
    | [] => [[c]]

def steps (path : String) : List String := (splitSlashes path.toList).map String.ofList

/-- One step in the normal form of a path, which is kept in reverse.  The root is above itself. -/
def normalStep (rooted : Bool) (done : List String) (step : String) : List String :=
  if step = "" ∨ step = "." then done
  else if step = ".." then
    match done with
    | [] => if rooted then [] else [".."]
    | top :: rest => if top = ".." then ".." :: done else rest
  else step :: done

/-- The slashes in front of a path that its normal form keeps: two if there are exactly two, and else one or none. -/
def leadingSlashes (path : String) : String :=
  match path.toList with
  | '/' :: '/' :: '/' :: _ => "/"
  | '/' :: '/' :: _ => "//"
  | '/' :: _ => "/"
  | _ => ""

def normalPath (path : String) : String :=
  let lead := leadingSlashes path
  let names := ((steps path).foldl (normalStep (lead ≠ "")) []).reverse
  let text := lead ++ "/".intercalate names
  if text = "" then "." else text

/-- The path in full, taken from the directory `here`. -/
def absolutePath (here path : String) : String :=
  if path.toList.head? = some '/' then normalPath path
  else if here.toList.getLast? = some '/' then normalPath (here ++ path)
  else normalPath (here ++ "/" ++ path)

/-- The home directories of users. -/
structure Homes where
  /-- That of the user who runs the program. -/
  own : Option String
  /-- Those of users by their names. -/
  named : List (String × String)

/-- The home directory for what stands behind a `~`: the name of a user, or nothing. -/
def Homes.find? (h : Homes) (user : String) : Option String :=
  if user = "" then h.own else (h.named.find? fun entry => entry.1 == user).map Prod.snd

/-- A path with a home directory in front. -/
def underHome (home : String) (rest : List Char) : String :=
  let path := (home.toList.reverse.dropWhile (· == '/')).reverse ++ rest
  if path = [] then "/" else String.ofList path

/-- The path with a home directory in place of the `~` in front and the name of a user behind that.  Without a home
directory the path stays as it is.  There is no such path if the name holds a null character. -/
def homePath (homes : Homes) (path : String) : Option String :=
  match path.toList with
  | '~' :: behind =>
    let user := behind.takeWhile (· ≠ '/')
    if user.contains '\x00' then none
    else match homes.find? (String.ofList user) with
      | some home => some (underHome home (behind.dropWhile (· ≠ '/')))
      | none => some path
  | _ => some path

end Chip8

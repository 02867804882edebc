import NewBcpl.Foundations.Inclusions

namespace NewBcpl
namespace Preprocessing

/-!
# The preprocessor

`Preprocessor` over the files of a system. A line is a list of characters, and so is a path. The
recursion of `process_internal` has fuel, and no result when the fuel runs out.
-/

/-- Lines, names and paths. -/
abbrev Text : Type := List Char

/-- The files. `realpath` gives the canonical path of a path that exists, and a canonical path
is its own; `files` has the lines of the files that can be opened, by their canonical paths. -/
structure FileSystem where
  realpath : Text -> Option Text
  files : List (Text × List Text)
  realpath_realpath : forall path file, realpath path = some file -> realpath file = some file

namespace FileSystem

variable (fs : FileSystem)

/-- `stat`. -/
def stat (path : Text) : Bool := (fs.realpath path).isSome

/-- The lines of a file that can be opened. -/
def openFile (path : Text) : Option (List Text) :=
  (fs.realpath path).bind fun file => fs.files.lookup file

end FileSystem

/-- How `process` fails. The messages go on with the files that are being expanded and with the
directories that were searched. -/
inductive PreprocessorError where
  | circular (canonicalPath : Text)
  | couldNotOpen (currentFilepath : Text)
  | couldNotResolve (includeFile canonicalPath : Text) (lineNumber : Nat)
  deriving DecidableEq, Repr

/-- The beginning of a message. -/
def PreprocessorError.message : PreprocessorError -> String
  | circular _ => "Preprocessor error: Circular GET dependency detected:"
  | couldNotOpen currentFilepath =>
      "Preprocessor error: Could not open file: " ++ String.ofList currentFilepath
  | couldNotResolve includeFile canonicalPath lineNumber =>
      "Preprocessor error: Could not resolve include file: " ++ String.ofList includeFile ++
        " referenced from " ++ String.ofList canonicalPath ++ " at line " ++ toString lineNumber

/-- What goes to the output stream: a mark, or a line of a file. -/
inductive OutputLine where
  | lineMark (lineNumber : Nat) (canonicalPath : Text)
  | text (line : Text)
  deriving DecidableEq, Repr

/-- The output without its marks. -/
def textLines : List OutputLine -> List Text
  | [] => []
  | .lineMark _ _ :: rest => textLines rest
  | .text line :: rest => line :: textLines rest

/-- The output and the inclusion stack, or an exception. -/
abbrev Result : Type := Except PreprocessorError (List OutputLine × List Text)

/-! ## Lines -/

/-- `std::isspace`. -/
def isSpace (c : Char) : Bool := c.toNat = 32 || (9 <= c.toNat && c.toNat <= 13)

/-- `Preprocessor::is_get_directive`. -/
def isGetDirective (line : Text) : Bool :=
  let trimmed := line.dropWhile isSpace
  3 <= trimmed.length && (trimmed.take 3).map Char.toUpper == ['G', 'E', 'T']

/-- The quotation mark. -/
def quote : Char := Char.ofNat 34

/-- `Preprocessor::extract_filename`. -/
def extractFilename (line : Text) : Text :=
  match line.dropWhile (· ≠ quote) with
  | [] => []
  | _ :: afterQuote =>
      if quote ∈ afterQuote then afterQuote.takeWhile (· ≠ quote) else []

/-! ## Paths -/

/-- `dirname`. -/
def dirname (path : Text) : Text :=
  match path.reverse.dropWhile (· = '/') with
  | [] => if path.head? = some '/' then ['/'] else ['.']
  | lastName =>
      match lastName.dropWhile (· ≠ '/') with
      | [] => ['.']
      | slashes =>
          match slashes.dropWhile (· = '/') with
          | [] => ['/']
          | directory => directory.reverse

section

variable (fs : FileSystem) (includePaths : List Text)

/-- A path that exists. -/
def tryPath (path : Text) : Option Text := if fs.stat path then some path else none

/-- `Preprocessor::resolve_file_path`. -/
def resolveFilePath (requestedFile currentDir : Text) : Option Text :=
  match tryPath fs requestedFile with
  | some path => some path
  | none =>
      match if currentDir ≠ [] then tryPath fs (currentDir ++ '/' :: requestedFile) else none with
      | some path => some path
      | none =>
          includePaths.findSome? fun includePath => tryPath fs (includePath ++ '/' :: requestedFile)

/-- The file that is opened for a path: the lines, and the canonical path from then on. -/
def openSource (currentFilepath canonicalPath : Text) : Option (List Text × Text) :=
  match fs.openFile currentFilepath with
  | some lines => some (lines, canonicalPath)
  | none =>
      match resolveFilePath fs includePaths currentFilepath [] with
      | none => none
      | some resolvedPath =>
          if resolvedPath ≠ currentFilepath then
            (fs.openFile resolvedPath).map fun lines => (lines, resolvedPath)
          else none

/-! ## Expansion -/

/-- Output before a result. -/
def prepend (output : List OutputLine) : Option Result -> Option Result
  | some (.ok (rest, inclusionStack)) => some (.ok (output ++ rest, inclusionStack))
  | other => other

/-- The loop over the lines of a file. -/
def processLines (process : Text -> List Text -> Option Result) (canonicalPath currentDir : Text) :
    Nat -> List Text -> List Text -> Option Result
  | _, [], inclusionStack => some (.ok ([], inclusionStack))
  | lineNumber, line :: rest, inclusionStack =>
      if isGetDirective line then
        let includeFile := extractFilename line
        if includeFile ≠ [] then
          match resolveFilePath fs includePaths includeFile currentDir with
          | none => some (.error (.couldNotResolve includeFile canonicalPath lineNumber))
          | some includePath =>
              match process includePath inclusionStack with
              | some (.ok (inner, inclusionStack)) =>
                  prepend (inner ++ [.lineMark (lineNumber + 1) canonicalPath])
                    (processLines process canonicalPath currentDir (lineNumber + 1) rest
                      inclusionStack)
              | other => other
        else
          prepend [.text line]
            (processLines process canonicalPath currentDir (lineNumber + 1) rest inclusionStack)
      else
        prepend [.text line]
          (processLines process canonicalPath currentDir (lineNumber + 1) rest inclusionStack)

/-- `Preprocessor::process_internal`. The path that is taken off the stack is the one of the file
that was opened. -/
def processInternal : Nat -> Text -> List Text -> Option Result
  | 0, _, _ => none
  | fuel + 1, currentFilepath, inclusionStack =>
      let canonicalPath := (fs.realpath currentFilepath).getD currentFilepath
      if canonicalPath ∈ inclusionStack then some (.error (.circular canonicalPath))
      else
        match openSource fs includePaths currentFilepath canonicalPath with
        | none => some (.error (.couldNotOpen currentFilepath))
        | some (lines, canonicalPath') =>
            match processLines fs includePaths (processInternal fuel) canonicalPath'
              (dirname canonicalPath') 1 lines (canonicalPath :: inclusionStack) with
            | some (.ok (output, inclusionStack)) =>
                some (.ok (.lineMark 1 canonicalPath' :: output,
                  inclusionStack.filter (· ≠ canonicalPath')))
            | other => other

/-- `Preprocessor::process`. -/
def process (fuel : Nat) (rootFilepath : Text) :
    Option (Except PreprocessorError (List OutputLine)) :=
  (processInternal fs includePaths fuel rootFilepath []).map fun result => result.map Prod.fst

end

/-- The files that are not being expanded. -/
def remaining (fs : FileSystem) (active : List Text) : List Text :=
  (fs.files.map Prod.fst).filter (· ∉ active)

end Preprocessing
end NewBcpl

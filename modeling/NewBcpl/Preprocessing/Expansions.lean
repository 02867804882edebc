import NewBcpl.Preprocessing.Preprocessor
import Mathlib.Data.List.Nodup

namespace NewBcpl
namespace Preprocessing

open Foundations.Inclusions

/-!
# What the preprocessor yields

The files as texts that include one another. `process` yields the expansion of the root file, or
fails because the expansion has a fault. A root file that was found by an include path is not
among the files that are being expanded, since the stack has the name that it was asked for.
-/

section

variable (fs : FileSystem) (includePaths : List Text)

/-! ## The files as texts -/

/-- The file that a name means in a directory, if it can be resolved and opened. -/
def targetOf (currentDir name : Text) : Option Text :=
  (resolveFilePath fs includePaths name currentDir).bind fun path =>
    if (fs.openFile path).isSome then fs.realpath path else none

/-- A line: a `GET` directive that names a file, or text. -/
def pieceOf (currentDir line : Text) : Piece Text Text :=
  if isGetDirective line = true ∧ extractFilename line ≠ [] then
    .link (targetOf fs includePaths currentDir (extractFilename line))
  else .item line

/-- The lines of a file. -/
def bodyOf (file : Text) : List (Piece Text Text) :=
  ((fs.files.lookup file).getD []).map (pieceOf fs includePaths (dirname file))

/-- The root file, the directory that its names are relative to, and its lines. -/
def rootSource (rootFilepath : Text) : Option (Text × Text × List Text) :=
  match fs.realpath rootFilepath with
  | some file => (fs.files.lookup file).map fun lines => (file, dirname file, lines)
  | none =>
      (resolveFilePath fs includePaths rootFilepath []).bind fun path =>
        (fs.realpath path).bind fun file =>
          (fs.files.lookup file).map fun lines => (file, dirname path, lines)

/-- What `process` is for: it comes to an end, with the expansion of the root file, or with an
exception because the root file cannot be opened or its expansion has a fault. -/
def ProcessesRoot (rootFilepath : Text) : Prop :=
  forall fuel, fs.files.length + 2 <= fuel ->
    exists outcome, process fs includePaths fuel rootFilepath = some outcome ∧
      match outcome with
      | .ok output =>
          exists file directory lines,
            rootSource fs includePaths rootFilepath = some (file, directory, lines) ∧
              Expands (bodyOf fs includePaths) [file]
                (lines.map (pieceOf fs includePaths directory)) (textLines output)
      | .error _ =>
          forall file directory lines,
            rootSource fs includePaths rootFilepath = some (file, directory, lines) ->
              Faults (bodyOf fs includePaths) [file]
                (lines.map (pieceOf fs includePaths directory))

/-- The root file exists under its own name, or no file that it leads to includes it again, or
its expansion has another fault. -/
def RootIsTracked (rootFilepath : Text) : Prop :=
  fs.realpath rootFilepath = none ->
    forall file directory lines,
      rootSource fs includePaths rootFilepath = some (file, directory, lines) ->
        Reaches (bodyOf fs includePaths) (lines.map (pieceOf fs includePaths directory)) file ->
          Faults (bodyOf fs includePaths) [] (lines.map (pieceOf fs includePaths directory))

end

/-! ## Output -/

theorem textLines_append (first second : List OutputLine) :
    textLines (first ++ second) = textLines first ++ textLines second := by
  induction first with
  | nil => rfl
  | cons line rest hypothesis =>
      cases line with
      | lineMark _ _ => exact hypothesis
      | text line => exact congrArg (line :: ·) hypothesis

section

variable {fs : FileSystem} {includePaths : List Text}

/-! ## Files -/

/-- A path that was tried with success exists. -/
theorem realpath_of_tryPath {tried path : Text} (found : tryPath fs tried = some path) :
    exists file, fs.realpath path = some file := by
  unfold tryPath at found
  split at found
  · rename_i exists_
    cases found
    exact Option.isSome_iff_exists.mp exists_
  · cases found

/-- A path that was resolved exists. -/
theorem realpath_of_resolved {name currentDir path : Text}
    (resolved : resolveFilePath fs includePaths name currentDir = some path) :
    exists file, fs.realpath path = some file := by
  unfold resolveFilePath at resolved
  split at resolved
  · rename_i found
    cases resolved
    exact realpath_of_tryPath found
  · split at resolved
    · rename_i found
      cases resolved
      split at found
      · exact realpath_of_tryPath found
      · cases found
    · obtain ⟨includePath, _, found⟩ := List.exists_of_findSome?_eq_some resolved
      exact realpath_of_tryPath found

/-- A file that can be opened is one of the files. -/
theorem openFile_eq_some {path : Text} {file : Text} (canonical : fs.realpath path = some file) :
    fs.openFile path = fs.files.lookup file := by
  unfold FileSystem.openFile
  rw [canonical]
  rfl

theorem mem_of_lookup {file : Text} {lines : List Text}
    (opened : fs.files.lookup file = some lines) : file ∈ fs.files.map Prod.fst := by
  generalize fs.files = files at opened
  induction files with
  | nil => cases opened
  | cons entry rest hypothesis =>
      obtain ⟨key, value⟩ := entry
      rw [List.lookup_cons] at opened
      split at opened
      · rename_i same
        rw [eq_of_beq same]
        exact List.mem_cons_self
      · exact List.mem_cons_of_mem _ (hypothesis opened)

/-- Expanding another file leaves fewer of them. -/
theorem remaining_cons_lt {file : Text} {active : List Text}
    (known : file ∈ fs.files.map Prod.fst) (fresh : file ∉ active) :
    (remaining fs (file :: active)).length < (remaining fs active).length := by
  have fewer : remaining fs (file :: active) = (remaining fs active).filter (· ≠ file) := by
    unfold remaining
    rw [List.filter_filter]
    apply List.filter_congr
    intro other _
    by_cases same : other = file
    · simp [same]
    · simp [same]
  rw [fewer]
  apply List.length_filter_lt_length_iff_exists.mpr
  refine ⟨file, List.mem_filter.mpr ⟨known, decide_eq_true fresh⟩, ?_⟩
  simp

/-! ## Lines -/

/-- What the processing of a file has to yield while others are being expanded. -/
def ProcessesFile (fs : FileSystem) (includePaths : List Text) (active : List Text)
    (path file : Text) (result : Result) : Prop :=
  match result with
  | .ok (output, inclusionStack) =>
      inclusionStack = active ∧ (fs.openFile path).isSome ∧ file ∉ active ∧
        Expands (bodyOf fs includePaths) (file :: active) (bodyOf fs includePaths file)
          (textLines output)
  | .error _ =>
      fs.openFile path = none ∨ file ∈ active ∨
        Faults (bodyOf fs includePaths) (file :: active) (bodyOf fs includePaths file)

/-- What the processing of lines has to yield. -/
def ProcessesLines (fs : FileSystem) (includePaths : List Text) (active : List Text)
    (pieces : List (Piece Text Text)) (result : Result) : Prop :=
  match result with
  | .ok (output, inclusionStack) =>
      inclusionStack = active ∧
        Expands (bodyOf fs includePaths) active pieces (textLines output)
  | .error _ => Faults (bodyOf fs includePaths) active pieces

variable {active : List Text} {currentDir : Text}

/-- A line of text before other lines. -/
theorem processesLines_text {line : Text} {rest : List (Piece Text Text)} {result : Result}
    (others : ProcessesLines fs includePaths active rest result) :
    exists whole, prepend [.text line] (some result) = some whole ∧
      ProcessesLines fs includePaths active (.item line :: rest) whole := by
  cases result with
  | error error => exact ⟨_, rfl, Faults.cons others _⟩
  | ok pair =>
      obtain ⟨output, inclusionStack⟩ := pair
      exact ⟨_, rfl, others.1, .item line others.2⟩

/-- The expansion of a file before other lines. -/
theorem processesLines_link {file : Text} {inner mark : List OutputLine}
    {rest : List (Piece Text Text)} {result : Result} (unmarked : textLines mark = [])
    (fresh : file ∉ active)
    (expands : Expands (bodyOf fs includePaths) (file :: active) (bodyOf fs includePaths file)
      (textLines inner))
    (others : ProcessesLines fs includePaths active rest result) :
    exists whole, prepend (inner ++ mark) (some result) = some whole ∧
      ProcessesLines fs includePaths active (.link (some file) :: rest) whole := by
  cases result with
  | error error => exact ⟨_, rfl, Faults.cons others _⟩
  | ok pair =>
      obtain ⟨output, inclusionStack⟩ := pair
      refine ⟨_, rfl, others.1, ?_⟩
      rw [textLines_append, textLines_append, unmarked, List.append_nil]
      exact .link fresh expands others.2

/-- The loop over the lines, when the files that they name are processed. -/
theorem processLines_processes {process : Text -> List Text -> Option Result}
    (processes : forall path file, fs.realpath path = some file ->
      exists result, process path active = some result ∧
        ProcessesFile fs includePaths active path file result)
    (canonicalPath : Text) (lines : List Text) : forall lineNumber,
      exists result,
        processLines fs includePaths process canonicalPath currentDir lineNumber lines active =
          some result ∧
        ProcessesLines fs includePaths active (lines.map (pieceOf fs includePaths currentDir))
          result := by
  induction lines with
  | nil =>
      intro lineNumber
      exact ⟨_, rfl, rfl, .nil active⟩
  | cons line rest hypothesis =>
      intro lineNumber
      obtain ⟨others, ran, right⟩ := hypothesis (lineNumber + 1)
      rw [List.map_cons]
      unfold processLines
      by_cases directive : isGetDirective line = true
      · rw [if_pos directive]
        by_cases named : extractFilename line ≠ []
        · have piece : pieceOf fs includePaths currentDir line =
              .link (targetOf fs includePaths currentDir (extractFilename line)) :=
            if_pos ⟨directive, named⟩
          simp only [if_pos named]
          rw [piece]
          cases resolved : resolveFilePath fs includePaths (extractFilename line) currentDir with
          | none =>
              refine ⟨_, rfl, Faults.missing ?_⟩
              have nowhere : targetOf fs includePaths currentDir (extractFilename line) = none := by
                unfold targetOf
                rw [resolved]
                rfl
              rw [nowhere]
              exact List.mem_cons_self
          | some path =>
              obtain ⟨file, canonical⟩ := realpath_of_resolved resolved
              have target : targetOf fs includePaths currentDir (extractFilename line) =
                  if (fs.openFile path).isSome then some file else none := by
                unfold targetOf
                rw [resolved, Option.bind_some, canonical]
              obtain ⟨result, processed, processesFile⟩ := processes path file canonical
              simp only [processed]
              cases result with
              | error error =>
                  refine ⟨_, rfl, ?_⟩
                  change Faults _ _ _
                  cases opened : fs.openFile path with
                  | none =>
                      rw [opened, if_neg (by simp)] at target
                      exact .missing (target ▸ List.mem_cons_self)
                  | some lines =>
                      rw [opened, if_pos (by simp)] at target
                      rw [target]
                      rcases processesFile with closed | counted | faults
                      · rw [opened] at closed
                        cases closed
                      · exact .again List.mem_cons_self counted
                      · exact .inside List.mem_cons_self faults
              | ok pair =>
                  obtain ⟨inner, inclusionStack⟩ := pair
                  obtain ⟨restored, opened, fresh, expands⟩ := processesFile
                  subst restored
                  rw [if_pos opened] at target
                  simp only [ran]
                  rw [target]
                  exact processesLines_link rfl fresh expands right
        · have piece : pieceOf fs includePaths currentDir line = .item line :=
            if_neg fun both => named both.2
          simp only [if_neg named]
          rw [piece, ran]
          exact processesLines_text right
      · have piece : pieceOf fs includePaths currentDir line = .item line :=
          if_neg fun both => directive both.1
        rw [if_neg directive, piece, ran]
        exact processesLines_text right

/-! ## Files, by the number of those that are left -/

/-- A file is processed when there is fuel for the files that are left. -/
theorem processInternal_processes {fuel : Nat} : forall {active : List Text},
    (remaining fs active).length < fuel ->
      forall path file, fs.realpath path = some file ->
        exists result, processInternal fs includePaths fuel path active = some result ∧
          ProcessesFile fs includePaths active path file result := by
  induction fuel with
  | zero =>
      intro active enough
      exact absurd enough (Nat.not_lt_zero _)
  | succ fuel hypothesis =>
      intro active enough path file canonical
      have own : (fs.realpath path).getD path = file := by
        rw [canonical]
        rfl
      unfold processInternal
      simp only [own]
      by_cases counted : file ∈ active
      · rw [if_pos counted]
        exact ⟨_, rfl, Or.inr (Or.inl counted)⟩
      · rw [if_neg counted]
        cases opened : fs.openFile path with
        | none =>
            have closed : openSource fs includePaths path file = none := by
              have found : resolveFilePath fs includePaths path [] = some path := by
                unfold resolveFilePath tryPath FileSystem.stat
                rw [canonical]
                rfl
              unfold openSource
              simp only [opened, found, ne_eq, not_true_eq_false, if_false]
            simp only [closed]
            exact ⟨_, rfl, Or.inl opened⟩
        | some lines =>
            have source : openSource fs includePaths path file = some (lines, file) := by
              unfold openSource
              simp only [opened]
            have known : fs.files.lookup file = some lines :=
              (openFile_eq_some canonical).symm.trans opened
            have fewer := remaining_cons_lt (mem_of_lookup known) counted
            have body : bodyOf fs includePaths file =
                lines.map (pieceOf fs includePaths (dirname file)) := by
              unfold bodyOf
              rw [known]
              rfl
            obtain ⟨result, ran, processes⟩ :=
              @processLines_processes fs includePaths (file :: active) (dirname file) _
                (hypothesis (show (remaining fs (file :: active)).length < fuel by omega)) file
                lines 1
            rw [← body] at processes
            simp only [source, ran]
            cases result with
            | error error => exact ⟨_, rfl, Or.inr (Or.inr processes)⟩
            | ok pair =>
                obtain ⟨output, inclusionStack⟩ := pair
                obtain ⟨restored, expands⟩ := processes
                refine ⟨_, rfl, ?_, by rw [opened]; rfl, counted, expands⟩
                rw [restored, List.filter_cons_of_neg (by simp)]
                apply List.filter_eq_self.mpr
                intro other member
                exact decide_eq_true fun same => counted (same ▸ member)

/-! ## The root file -/

variable {rootFilepath : Text}

/-- A result of `process_internal` without its stack. -/
theorem process_eq {fuel : Nat} {result : Result}
    (ran : processInternal fs includePaths fuel rootFilepath [] = some result) :
    process fs includePaths fuel rootFilepath = some (result.map Prod.fst) := by
  unfold process
  rw [ran]
  rfl

/-- No more files are left than there are. -/
theorem remaining_le (active : List Text) : (remaining fs active).length <= fs.files.length := by
  unfold remaining
  exact Nat.le_trans (List.length_filter_le _ _) (Nat.le_of_eq (List.length_map _))

/-- A root file that exists under its own name. -/
theorem processesRoot_of_realpath {file : Text} (canonical : fs.realpath rootFilepath = some file) :
    ProcessesRoot fs includePaths rootFilepath := by
  intro fuel enough
  have left := @remaining_le fs []
  obtain ⟨result, ran, processes⟩ := processInternal_processes
    (show (remaining fs []).length < fuel by omega) rootFilepath file canonical
  have opened : fs.openFile rootFilepath = fs.files.lookup file := openFile_eq_some canonical
  have source : rootSource fs includePaths rootFilepath =
      (fs.files.lookup file).map fun lines => (file, dirname file, lines) := by
    unfold rootSource
    rw [canonical]
  have body : forall lines, fs.files.lookup file = some lines ->
      bodyOf fs includePaths file = lines.map (pieceOf fs includePaths (dirname file)) := by
    intro lines known
    unfold bodyOf
    rw [known]
    rfl
  refine ⟨_, process_eq ran, ?_⟩
  cases result with
  | error error =>
      intro other directory lines known
      rw [source] at known
      obtain ⟨found, lookup, same⟩ := Option.map_eq_some_iff.mp known
      cases same
      rcases processes with closed | counted | faults
      · rw [opened, lookup] at closed
        cases closed
      · cases counted
      · rw [body lines lookup] at faults
        exact faults
  | ok pair =>
      obtain ⟨output, inclusionStack⟩ := pair
      obtain ⟨_, isOpen, _, expands⟩ := processes
      rw [opened] at isOpen
      obtain ⟨lines, lookup⟩ := Option.isSome_iff_exists.mp isOpen
      refine ⟨file, dirname file, lines, ?_, ?_⟩
      · rw [source, lookup]
        rfl
      · rw [body lines lookup] at expands
        exact expands

/-- A link leads to a canonical path. -/
theorem realpath_of_link {currentDir : Text} {lines : List Text} {node : Text}
    (member : .link (some node) ∈ lines.map (pieceOf fs includePaths currentDir)) :
    fs.realpath node = some node := by
  obtain ⟨line, _, piece⟩ := List.mem_map.mp member
  unfold pieceOf at piece
  split at piece
  · have target := Piece.link.inj piece
    unfold targetOf at target
    obtain ⟨path, _, found⟩ := Option.bind_eq_some_iff.mp target
    split at found
    · exact fs.realpath_realpath path node found
    · cases found
  · cases piece

/-- Only canonical paths are reached. -/
theorem realpath_of_reaches {pieces : List (Piece Text Text)} {node : Text}
    (reaches : Reaches (bodyOf fs includePaths) pieces node) :
    forall {currentDir : Text} {lines : List Text},
      pieces = lines.map (pieceOf fs includePaths currentDir) -> fs.realpath node = some node := by
  induction reaches with
  | here member =>
      intro currentDir lines same
      exact realpath_of_link (same ▸ member)
  | there _ _ hypothesis =>
      intro currentDir lines _
      exact hypothesis rfl

/-- The name of a root file that was found by an include path is no canonical path. -/
theorem faults_cons_root_iff (missing : fs.realpath rootFilepath = none) (currentDir : Text)
    (lines : List Text) :
    Faults (bodyOf fs includePaths) [rootFilepath]
        (lines.map (pieceOf fs includePaths currentDir)) <->
      Faults (bodyOf fs includePaths) [] (lines.map (pieceOf fs includePaths currentDir)) := by
  rw [faults_cons_iff, or_iff_left]
  intro reaches
  rw [realpath_of_reaches reaches rfl] at missing
  cases missing

/-- A root file that does not exist under its own name: where it was found. -/
theorem openSource_root (missing : fs.realpath rootFilepath = none) :
    openSource fs includePaths rootFilepath rootFilepath =
      (resolveFilePath fs includePaths rootFilepath []).bind fun path =>
        (fs.openFile path).map fun lines => (lines, path) := by
  have closed : fs.openFile rootFilepath = none := by
    unfold FileSystem.openFile
    rw [missing]
    rfl
  unfold openSource
  rw [closed]
  cases resolved : resolveFilePath fs includePaths rootFilepath [] with
  | none => rfl
  | some path =>
      obtain ⟨file, canonical⟩ := realpath_of_resolved resolved
      have different : path ≠ rootFilepath := by
        rintro rfl
        rw [missing] at canonical
        cases canonical
      simp only [if_pos different]
      rfl

/-- What becomes of a root file that was found by an include path: its own name is on the stack. -/
theorem process_root (missing : fs.realpath rootFilepath = none) {fuel : Nat}
    (enough : fs.files.length + 2 <= fuel) :
    exists outcome, process fs includePaths fuel rootFilepath = some outcome ∧
      match outcome with
      | .ok output =>
          exists file directory lines,
            rootSource fs includePaths rootFilepath = some (file, directory, lines) ∧
              Expands (bodyOf fs includePaths) [rootFilepath]
                (lines.map (pieceOf fs includePaths directory)) (textLines output)
      | .error _ =>
          forall file directory lines,
            rootSource fs includePaths rootFilepath = some (file, directory, lines) ->
              Faults (bodyOf fs includePaths) [rootFilepath]
                (lines.map (pieceOf fs includePaths directory)) := by
  obtain ⟨fuel, rfl⟩ : exists less, fuel = less + 1 := ⟨fuel - 1, by omega⟩
  have own : (fs.realpath rootFilepath).getD rootFilepath = rootFilepath := by
    rw [missing]
    rfl
  have left := @remaining_le fs [rootFilepath]
  have source : rootSource fs includePaths rootFilepath =
      (resolveFilePath fs includePaths rootFilepath []).bind fun path =>
        (fs.realpath path).bind fun file =>
          (fs.files.lookup file).map fun lines => (file, dirname path, lines) := by
    unfold rootSource
    rw [missing]
  have step := processInternal.eq_2 fs includePaths rootFilepath [] fuel
  simp only [own, List.not_mem_nil, if_false, openSource_root missing] at step
  cases resolved : resolveFilePath fs includePaths rootFilepath [] with
  | none =>
      rw [resolved] at step source
      refine ⟨_, process_eq step, ?_⟩
      intro file directory lines known
      rw [source] at known
      cases known
  | some path =>
      obtain ⟨file, canonical⟩ := realpath_of_resolved resolved
      have opens : fs.openFile path = fs.files.lookup file := openFile_eq_some canonical
      rw [resolved, Option.bind_some, opens] at step
      rw [resolved, Option.bind_some, canonical, Option.bind_some] at source
      cases lookup : fs.files.lookup file with
      | none =>
          rw [lookup] at step source
          refine ⟨_, process_eq step, ?_⟩
          intro other directory lines known
          rw [source] at known
          cases known
      | some lines =>
          rw [lookup, Option.map_some] at step source
          obtain ⟨result, ran, processes⟩ :=
            @processLines_processes fs includePaths [rootFilepath] (dirname path) _
              (processInternal_processes (show (remaining fs [rootFilepath]).length < fuel by omega))
              path lines 1
          simp only [ran] at step
          cases result with
          | error error =>
              refine ⟨_, process_eq step, ?_⟩
              intro other directory found known
              rw [source] at known
              cases known
              exact processes
          | ok pair =>
              obtain ⟨output, inclusionStack⟩ := pair
              refine ⟨_, process_eq step, file, dirname path, lines, source, ?_⟩
              exact processes.2

/-- The preprocessor does what it is for exactly when the root file is tracked. -/
theorem processesRoot_iff_rootIsTracked (fs : FileSystem) (includePaths : List Text)
    (rootFilepath : Text) :
    ProcessesRoot fs includePaths rootFilepath <-> RootIsTracked fs includePaths rootFilepath := by
  cases canonical : fs.realpath rootFilepath with
  | some file =>
      refine iff_of_true (processesRoot_of_realpath canonical) ?_
      intro missing
      rw [canonical] at missing
      cases missing
  | none =>
      constructor
      · intro processes _ file directory lines source reaches
        obtain ⟨outcome, ran, right⟩ := processes (fs.files.length + 2) (Nat.le_refl _)
        obtain ⟨same, sameRun, actual⟩ := @process_root fs includePaths rootFilepath canonical
          (fs.files.length + 2) (Nat.le_refl _)
        cases ran.symm.trans sameRun
        cases outcome with
        | error error =>
            exact (faults_cons_root_iff canonical directory lines).mp
              (actual file directory lines source)
        | ok output =>
            obtain ⟨other, otherDirectory, otherLines, known, expands⟩ := right
            cases source.symm.trans known
            exact absurd (reaches.faults List.mem_cons_self) expands.not_faults
      · intro tracked fuel enough
        obtain ⟨outcome, ran, actual⟩ := process_root canonical enough
        refine ⟨outcome, ran, ?_⟩
        cases outcome with
        | error error =>
            intro file directory lines source
            have faults := (faults_cons_root_iff canonical directory lines).mp
              (actual file directory lines source)
            exact faults.mono fun _ counted => absurd counted List.not_mem_nil
        | ok output =>
            obtain ⟨file, directory, lines, source, expands⟩ := actual
            refine ⟨file, directory, lines, source, expands.of_not_faults ?_⟩
            intro faults
            have sound : ¬ Faults (bodyOf fs includePaths) []
                (lines.map (pieceOf fs includePaths directory)) := fun others =>
              expands.not_faults ((faults_cons_root_iff canonical directory lines).mpr others)
            rcases (faults_cons_iff file).mp faults with others | reaches
            · exact sound others
            · exact sound (tracked canonical file directory lines source reaches)

/-- The line of a directive. -/
def getLine (name : Text) : Text := ['G', 'E', 'T', ' ', quote] ++ name ++ [quote]

/-- The paths of a system in which the file `i/f` is a link to `/o/f`, with their canonical
paths. -/
def linkedPaths : List (Text × Text) :=
  [(['i', '/', 'f'], ['/', 'o', '/', 'f']), (['/', 'i', '/', 'f'], ['/', 'o', '/', 'f']),
    (['/', 'o', '/', 'f'], ['/', 'o', '/', 'f']), (['i', '/', 'a'], ['/', 'i', '/', 'a']),
    (['/', 'i', '/', 'a'], ['/', 'i', '/', 'a']), (['/', 'o', '/', 'a'], ['/', 'o', '/', 'a'])]

/-- The files: `/o/f` gets `a`, `/i/a` gets `f`, and `/o/a` has a line of text. -/
def linkedFiles : FileSystem where
  realpath := fun path => linkedPaths.lookup path
  files :=
    [(['/', 'o', '/', 'f'], [getLine ['a']]), (['/', 'i', '/', 'a'], [getLine ['f']]),
      (['/', 'o', '/', 'a'], [['x']])]
  realpath_realpath := by
    intro path file found
    have canonical : forall entry, entry ∈ linkedPaths ->
        linkedPaths.lookup entry.2 = some entry.2 := by decide
    obtain ⟨before, after, paths, _⟩ := List.lookup_eq_some_iff.mp found
    exact canonical (path, file) (paths ▸ List.mem_append_right before List.mem_cons_self)

/-- With the include path `i`, the root file `f` comes back to itself, and yet there is output. -/
theorem linkedRoot_not_tracked :
    ¬ forall (fs : FileSystem) (includePaths : List Text) (rootFilepath : Text),
      ProcessesRoot fs includePaths rootFilepath := by
  intro every
  obtain ⟨outcome, ran, right⟩ := every linkedFiles [['i']] ['f'] 5 (by decide)
  have actual : process linkedFiles [['i']] 5 ['f'] = some (.ok
      [.lineMark 1 ['i', '/', 'f'], .lineMark 1 ['/', 'i', '/', 'a'],
        .lineMark 1 ['/', 'o', '/', 'f'], .lineMark 1 ['/', 'o', '/', 'a'], .text ['x'],
        .lineMark 2 ['/', 'o', '/', 'f'], .lineMark 2 ['/', 'i', '/', 'a'],
        .lineMark 2 ['i', '/', 'f']]) := by decide +kernel
  cases ran.symm.trans actual
  obtain ⟨file, directory, lines, source, expands⟩ := right
  have known : rootSource linkedFiles [['i']] ['f'] =
      some (['/', 'o', '/', 'f'], ['i'], [getLine ['a']]) := by decide +kernel
  cases source.symm.trans known
  apply expands.not_faults
  have first : Piece.link (some ['/', 'i', '/', 'a']) ∈
      [getLine ['a']].map (pieceOf linkedFiles [['i']] ['i']) := by decide +kernel
  have second : Piece.link (some ['/', 'o', '/', 'f']) ∈
      bodyOf linkedFiles [['i']] ['/', 'i', '/', 'a'] := by decide +kernel
  exact .inside first (.again second (by decide))

end

end Preprocessing
end NewBcpl

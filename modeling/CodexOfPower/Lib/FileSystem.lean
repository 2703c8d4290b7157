/-
# `CodexOfPower.Lib.FileSystem` — programs over files that may stop at any step

A disk gives each path the text of its file, if there is one.  A program is a tree
of file system steps: each step is tried, and the program goes on with what it was
told.  `run` takes the outcomes of the steps from a list and stops, wherever the
program is, when the list is over; `finish` is the run in which every step succeeds.

`Safe always post` is a precondition of the program: from a disk that satisfies it,
every disk the program can be stopped at satisfies `always`, and when the program
returns, `post` holds of the result and the disk.
-/
import Mathlib.Logic.Function.Basic

namespace FileSystem

abbrev Disk (Path Byte : Type) := Path → Option (List Byte)

/-! ## Steps -/

inductive Command (Path Byte : Type)
  | createDirectories
  /-- Opening for writing, which empties the file. -/
  | truncate (path : Path)
  /-- Writing to the file just opened. -/
  | write (path : Path) (text : List Byte)
  /-- Renaming is atomic, and the target is replaced. -/
  | rename (source target : Path)
  | remove (path : Path)

/-- How a step ends.  Of the text of a write that fails, a part has been written. -/
inductive Outcome
  | done
  | failed (written : Nat)

section
variable {Path Byte : Type} [DecidableEq Path]

/-- The disk after a step, and whether it succeeded. -/
def Command.run (disk : Disk Path Byte) : Command Path Byte → Outcome → Disk Path Byte × Bool
  | .createDirectories, .done => (disk, true)
  | .truncate path, .done => (Function.update disk path (some []), true)
  | .write path text, .done => (Function.update disk path (some text), true)
  | .write path text, .failed written =>
    (Function.update disk path (some (text.take written)), false)
  | .rename source target, .done =>
    match disk source with
    | some text => (Function.update (Function.update disk source none) target (some text), true)
    | none => (disk, false)
  | .remove path, .done => (Function.update disk path none, true)
  | _, .failed _ => (disk, false)

end

/-! ## Programs -/

inductive Program (Path Byte : Type) (α : Type)
  | done (result : α)
  /-- Whether there is a file: the answer is reliable. -/
  | check (path : Path) (next : Bool → Program Path Byte α)
  /-- The text of a file, nothing where it cannot be read. -/
  | read (path : Path) (next : Option (List Byte) → Program Path Byte α)
  | act (command : Command Path Byte) (next : Bool → Program Path Byte α)

namespace Program

section
variable {Path Byte : Type} {α β : Type}

def bind : Program Path Byte α → (α → Program Path Byte β) → Program Path Byte β
  | .done result, f => f result
  | .check path next, f => .check path fun answer => (next answer).bind f
  | .read path next, f => .read path fun answer => (next answer).bind f
  | .act command next, f => .act command fun answer => (next answer).bind f

instance instMonad : Monad (Program Path Byte) where
  pure := .done
  bind := .bind

def fileExists (path : Path) : Program Path Byte Bool := .check path .done

def readFile (path : Path) : Program Path Byte (Option (List Byte)) := .read path .done

def try_ (command : Command Path Byte) : Program Path Byte Bool := .act command .done

end

section
variable {Path Byte : Type} [DecidableEq Path] {α β : Type}

def run : Program Path Byte α → List Outcome → Disk Path Byte → Disk Path Byte × Option α
  | .done result, _, disk => (disk, some result)
  | .check path next, outcomes, disk => (next (disk path).isSome).run outcomes disk
  | .read _ _, [], disk => (disk, none)
  | .read path next, .done :: outcomes, disk => (next (disk path)).run outcomes disk
  | .read _ next, .failed _ :: outcomes, disk => (next none).run outcomes disk
  | .act _ _, [], disk => (disk, none)
  | .act command next, outcome :: outcomes, disk =>
    (next (command.run disk outcome).2).run outcomes (command.run disk outcome).1

def finish : Program Path Byte α → Disk Path Byte → Disk Path Byte × α
  | .done result, disk => (disk, result)
  | .check path next, disk => (next (disk path).isSome).finish disk
  | .read path next, disk => (next (disk path)).finish disk
  | .act command next, disk =>
    (next (command.run disk .done).2).finish (command.run disk .done).1

@[simp] theorem finish_pure (result : α) (disk : Disk Path Byte) :
    (pure result : Program Path Byte α).finish disk = (disk, result) := rfl

@[simp] theorem finish_fileExists (path : Path) (disk : Disk Path Byte) :
    (fileExists path).finish disk = (disk, (disk path).isSome) := rfl

@[simp] theorem finish_readFile (path : Path) (disk : Disk Path Byte) :
    (readFile path).finish disk = (disk, disk path) := rfl

@[simp] theorem finish_try (command : Command Path Byte) (disk : Disk Path Byte) :
    (try_ command).finish disk = command.run disk .done := rfl

@[simp] theorem finish_bind (first : Program Path Byte α) (rest : α → Program Path Byte β)
    (disk : Disk Path Byte) :
    (first >>= rest).finish disk = (rest (first.finish disk).2).finish (first.finish disk).1 := by
  induction first generalizing disk with
  | done result => rfl
  | check path next ih => exact ih _ disk
  | read path next ih => exact ih _ disk
  | act command next ih => exact ih _ _

/-! ## Preconditions -/

def Safe (always : Disk Path Byte → Prop) (post : α → Disk Path Byte → Prop) :
    Program Path Byte α → Disk Path Byte → Prop
  | .done result, disk => always disk ∧ post result disk
  | .check path next, disk => Safe always post (next (disk path).isSome) disk
  | .read path next, disk =>
    always disk ∧ Safe always post (next (disk path)) disk ∧ Safe always post (next none) disk
  | .act command next, disk =>
    always disk ∧ ∀ outcome,
      Safe always post (next (command.run disk outcome).2) (command.run disk outcome).1

section
variable {always : Disk Path Byte → Prop} {post : α → Disk Path Byte → Prop}
  {program : Program Path Byte α} {disk : Disk Path Byte}

/-- A safe program is safe in every run. -/
theorem Safe.run (h : Safe always post program disk) (outcomes : List Outcome) :
    always (program.run outcomes disk).1 ∧
      ∀ result, (program.run outcomes disk).2 = some result →
        post result (program.run outcomes disk).1 := by
  induction program generalizing outcomes disk with
  | done result =>
    obtain ⟨halways, hpost⟩ := h
    refine ⟨halways, fun r hr => ?_⟩
    obtain rfl := Option.some.inj hr
    exact hpost
  | check path next ih => exact ih _ h outcomes
  | read path next ih =>
    obtain ⟨halways, hread, hfailed⟩ := h
    match outcomes with
    | [] => exact ⟨halways, nofun⟩
    | .done :: outcomes => exact ih _ hread outcomes
    | .failed _ :: outcomes => exact ih _ hfailed outcomes
  | act command next ih =>
    obtain ⟨halways, hnext⟩ := h
    match outcomes with
    | [] => exact ⟨halways, nofun⟩
    | outcome :: outcomes => exact ih _ (hnext outcome) outcomes

/-- Less may be asked of the disks and of the result. -/
theorem Safe.mono {always' : Disk Path Byte → Prop} {post' : α → Disk Path Byte → Prop}
    (h : Safe always post program disk) (halways : ∀ disk, always disk → always' disk)
    (hpost : ∀ result disk, post result disk → post' result disk) :
    Safe always' post' program disk := by
  induction program generalizing disk with
  | done result => exact ⟨halways _ h.1, hpost _ _ h.2⟩
  | check path next ih => exact ih _ h
  | read path next ih => exact ⟨halways _ h.1, ih _ h.2.1, ih _ h.2.2⟩
  | act command next ih => exact ⟨halways _ h.1, fun outcome => ih _ (h.2 outcome)⟩

/-- A safe program is safe in the run in which every step succeeds. -/
theorem Safe.finish (h : Safe always post program disk) :
    always (program.finish disk).1 ∧ post (program.finish disk).2 (program.finish disk).1 := by
  induction program generalizing disk with
  | done result => exact h
  | check path next ih => exact ih _ h
  | read path next ih => exact ih _ h.2.1
  | act command next ih => exact ih _ (h.2 .done)

end

/-! ## Rules -/

section
variable {always : Disk Path Byte → Prop} {post : β → Disk Path Byte → Prop}
  {path source target : Path} {text : List Byte} {disk : Disk Path Byte}

theorem safe_pure {result : β} (halways : always disk) (hpost : post result disk) :
    Safe always post (pure result : Program Path Byte β) disk := ⟨halways, hpost⟩

theorem Safe.bind {middle : α → Disk Path Byte → Prop} {first : Program Path Byte α}
    {rest : α → Program Path Byte β} (hfirst : Safe always middle first disk)
    (hrest : ∀ result disk, always disk → middle result disk →
      Safe always post (rest result) disk) :
    Safe always post (first >>= rest) disk := by
  induction first generalizing disk with
  | done result => exact hrest result disk hfirst.1 hfirst.2
  | check path next ih => exact ih _ hfirst
  | read path next ih => exact ⟨hfirst.1, ih _ hfirst.2.1, ih _ hfirst.2.2⟩
  | act command next ih => exact ⟨hfirst.1, fun outcome => ih _ (hfirst.2 outcome)⟩

variable {rest : Bool → Program Path Byte β}

theorem safe_fileExists (h : Safe always post (rest (disk path).isSome) disk) :
    Safe always post (fileExists path >>= rest) disk := h

theorem safe_readFile {rest : Option (List Byte) → Program Path Byte β} (halways : always disk)
    (hread : Safe always post (rest (disk path)) disk)
    (hfailed : Safe always post (rest none) disk) :
    Safe always post (readFile path >>= rest) disk := ⟨halways, hread, hfailed⟩

theorem safe_createDirectories (halways : always disk)
    (hdone : Safe always post (rest true) disk) (hfailed : Safe always post (rest false) disk) :
    Safe always post (try_ .createDirectories >>= rest) disk := by
  refine ⟨halways, fun outcome => ?_⟩
  cases outcome with
  | done => exact hdone
  | failed _ => exact hfailed

theorem safe_truncate (halways : always disk)
    (hdone : Safe always post (rest true) (Function.update disk path (some [])))
    (hfailed : Safe always post (rest false) disk) :
    Safe always post (try_ (.truncate path) >>= rest) disk := by
  refine ⟨halways, fun outcome => ?_⟩
  cases outcome with
  | done => exact hdone
  | failed _ => exact hfailed

theorem safe_write (halways : always disk)
    (hdone : Safe always post (rest true) (Function.update disk path (some text)))
    (hfailed : ∀ written,
      Safe always post (rest false) (Function.update disk path (some (text.take written)))) :
    Safe always post (try_ (.write path text) >>= rest) disk := by
  refine ⟨halways, fun outcome => ?_⟩
  cases outcome with
  | done => exact hdone
  | failed written => exact hfailed written

theorem safe_rename (halways : always disk)
    (hdone : ∀ text, disk source = some text → Safe always post (rest true)
      (Function.update (Function.update disk source none) target (some text)))
    (hfailed : Safe always post (rest false) disk) :
    Safe always post (try_ (.rename source target) >>= rest) disk := by
  refine ⟨halways, fun outcome => ?_⟩
  cases outcome with
  | done =>
    cases hsource : disk source with
    | none =>
      simp only [Command.run, hsource]
      exact hfailed
    | some text =>
      simp only [Command.run, hsource]
      exact hdone text hsource
  | failed _ => exact hfailed

theorem safe_remove (halways : always disk)
    (hdone : Safe always post (rest true) (Function.update disk path none))
    (hfailed : Safe always post (rest false) disk) :
    Safe always post (try_ (.remove path) >>= rest) disk := by
  refine ⟨halways, fun outcome => ?_⟩
  cases outcome with
  | done => exact hdone
  | failed _ => exact hfailed

end

end

end Program

end FileSystem

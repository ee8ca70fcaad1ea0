import Mathlib.Data.List.Chain
import Mathlib.Tactic.Common

/-!
# Files replaced by renaming

A file that is only ever changed by renaming a complete new file over it shows one whole content at
a time. A rename is visible at once and reaches the medium later, in order; a power loss drops
renames that have not reached it. `AtomicFile` keeps the contents in the order of their renames, and
there are two invariant rules for them. `Durably` is for a property that no power loss can take
away. `Linked` says more: if every new content follows the visible one, the contents that ever were
on the medium form a chain without a gap. Nothing here names a program, and the contents are
arbitrary.
-/

namespace AegisOt

/-- The contents of one file, oldest first: those on the medium, and those renamed into place
    since. -/
structure AtomicFile (α : Type) where
  durable : List α
  pending : List α
  deriving DecidableEq

namespace AtomicFile

variable {α : Type}

/-- No file yet. -/
def missing : AtomicFile α := ⟨[], []⟩

/-- All contents in the order of their renames. -/
def contents (file : AtomicFile α) : List α := file.durable ++ file.pending

/-- What a reader sees. -/
def visible (file : AtomicFile α) : Option α := file.contents.getLast?

/-- `os.replace(temporary, path)`. -/
def replace (file : AtomicFile α) (content : α) : AtomicFile α :=
  { file with pending := file.pending ++ [content] }

/-- `os.fsync` of the directory. -/
def sync (file : AtomicFile α) : AtomicFile α := ⟨file.durable ++ file.pending, []⟩

/-- The first `count` pending renames reach the medium. -/
def writeback (file : AtomicFile α) (count : Nat) : AtomicFile α :=
  ⟨file.durable ++ file.pending.take count, file.pending.drop count⟩

/-- The power fails when `count` more renames have reached the medium. -/
def powerLoss (file : AtomicFile α) (count : Nat) : AtomicFile α :=
  ⟨file.durable ++ file.pending.take count, []⟩

@[simp] theorem visible_replace (file : AtomicFile α) (content : α) :
    (file.replace content).visible = some content := by
  simp [visible, contents, replace, ← List.append_assoc]

@[simp] theorem visible_sync (file : AtomicFile α) : file.sync.visible = file.visible := by
  simp [visible, contents, sync]

@[simp] theorem contents_sync (file : AtomicFile α) : file.sync.contents = file.contents := by
  simp [contents, sync]

@[simp] theorem contents_writeback (file : AtomicFile α) (count : Nat) :
    (file.writeback count).contents = file.contents := by
  simp [contents, writeback]

@[simp] theorem contents_replace (file : AtomicFile α) (content : α) :
    (file.replace content).contents = file.contents ++ [content] := by
  simp [contents, replace]

theorem contents_powerLoss (file : AtomicFile α) (count : Nat) :
    (file.powerLoss count).contents <+: file.contents := by
  have hdurable : (file.powerLoss count).contents = file.durable ++ file.pending.take count := by
    simp [contents, powerLoss]
  rw [hdurable]
  exact (List.prefix_append_right_inj _).mpr (List.take_prefix _ _)

/-- Whatever a power loss leaves on the medium, and whatever a reader sees until then. -/
def Durably (property : α → Prop) (file : AtomicFile α) : Prop :=
  (∃ content, file.durable.getLast? = some content ∧ property content) ∧
    ∀ content ∈ file.pending, property content

section

variable {property : α → Prop} {file : AtomicFile α}

theorem getLast?_append_of_mem {last : α} {contents rest : List α}
    (h : contents.getLast? = some last ∧ property last) (hrest : ∀ a ∈ rest, property a) :
    ∃ a, (contents ++ rest).getLast? = some a ∧ property a := by
  cases hlast : rest.getLast? with
  | none =>
    rw [List.getLast?_eq_none_iff.mp hlast, List.append_nil]
    exact ⟨last, h⟩
  | some a =>
    rw [List.getLast?_append, hlast]
    exact ⟨a, rfl, hrest a (List.mem_of_getLast? hlast)⟩

theorem Durably.visible (h : Durably property file) :
    ∃ content, file.visible = some content ∧ property content := by
  obtain ⟨⟨last, hlast⟩, hpending⟩ := h
  exact getLast?_append_of_mem hlast hpending

theorem Durably.replace (h : Durably property file) {content : α} (hcontent : property content) :
    Durably property (file.replace content) := by
  refine ⟨h.1, ?_⟩
  intro other hother
  rcases List.mem_append.mp hother with hold | hnew
  · exact h.2 other hold
  · rw [List.mem_singleton.mp hnew]
    exact hcontent

theorem Durably.writeback (h : Durably property file) (count : Nat) :
    Durably property (file.writeback count) := by
  obtain ⟨⟨last, hlast⟩, hpending⟩ := h
  refine ⟨getLast?_append_of_mem hlast ?_, ?_⟩
  · intro a ha
    exact hpending a (List.mem_of_mem_take ha)
  · intro a ha
    exact hpending a (List.mem_of_mem_drop ha)

theorem Durably.powerLoss (h : Durably property file) (count : Nat) :
    Durably property (file.powerLoss count) := by
  refine ⟨(h.writeback count).1, ?_⟩
  nofun

/-- A synced file keeps what it shows. -/
theorem durably_sync {content : α} (hvisible : file.visible = some content)
    (h : property content) : Durably property file.sync := by
  refine ⟨⟨content, hvisible, h⟩, ?_⟩
  nofun

theorem Durably.sync (h : Durably property file) : Durably property file.sync := by
  obtain ⟨content, hvisible, hcontent⟩ := h.visible
  exact durably_sync hvisible hcontent

end

theorem replace_ne (file : AtomicFile α) (content : α) : file.replace content ≠ file := by
  intro h
  have hlength := congrArg (fun file => file.pending.length) h
  simp [replace] at hlength

theorem sync_replace_ne (file : AtomicFile α) (content : α) :
    (file.replace content).sync ≠ file := by
  intro h
  have hlength := congrArg (fun file => file.contents.length) h
  simp at hlength

/-- The first content is a start and each next one follows the one it replaced. -/
structure Linked (start : α → Prop) (next : α → α → Prop) (file : AtomicFile α) : Prop where
  head : ∀ content, file.contents.head? = some content → start content
  chain : file.contents.IsChain next

/-- What may be renamed into place: a start, or what follows the visible content. -/
def Follows (start : α → Prop) (next : α → α → Prop) (file : AtomicFile α) (content : α) : Prop :=
  match file.visible with
  | none => start content
  | some current => next current content

variable {start : α → Prop} {next : α → α → Prop} {file : AtomicFile α}

theorem follows_of_visible {current content : α} (h : file.visible = some current) :
    Follows start next file content ↔ next current content := by
  unfold Follows
  rw [h]

theorem follows_of_missing {content : α} (h : file.visible = none) :
    Follows start next file content ↔ start content := by
  unfold Follows
  rw [h]

theorem linked_missing : Linked start next (missing : AtomicFile α) where
  head := by nofun
  chain := List.IsChain.nil

/-- A prefix of linked contents is linked. -/
theorem Linked.of_prefix (h : Linked start next file) {file' : AtomicFile α}
    (hpre : file'.contents <+: file.contents) : Linked start next file' := by
  obtain ⟨rest, hrest⟩ := hpre
  refine ⟨?_, ?_⟩
  · intro content hcontent
    refine h.head content ?_
    rw [← hrest, List.head?_append, hcontent]
    rfl
  · have hchain := h.chain
    rw [← hrest] at hchain
    exact (List.isChain_append.mp hchain).1

theorem Linked.sync (h : Linked start next file) : Linked start next file.sync :=
  h.of_prefix (contents_sync file ▸ List.prefix_refl _)

theorem Linked.writeback (h : Linked start next file) (count : Nat) :
    Linked start next (file.writeback count) :=
  h.of_prefix (contents_writeback file count ▸ List.prefix_refl _)

theorem Linked.powerLoss (h : Linked start next file) (count : Nat) :
    Linked start next (file.powerLoss count) :=
  h.of_prefix (contents_powerLoss file count)

theorem Linked.replace (h : Linked start next file) {content : α}
    (hfollows : Follows start next file content) : Linked start next (file.replace content) := by
  unfold Follows visible at hfollows
  refine ⟨?_, ?_⟩
  · intro first hfirst
    rw [contents_replace] at hfirst
    cases hcontents : file.contents with
    | nil =>
      rw [hcontents] at hfirst hfollows
      obtain rfl := Option.some.inj hfirst
      exact hfollows
    | cons head rest =>
      rw [hcontents] at hfirst
      refine h.head first ?_
      rw [hcontents]
      exact hfirst
  · rw [contents_replace]
    refine List.isChain_append.mpr ⟨h.chain, List.isChain_singleton _, ?_⟩
    intro last hlast content' hcontent'
    obtain rfl := Option.some.inj hcontent'
    rw [Option.mem_def.mp hlast] at hfollows
    exact hfollows

end AtomicFile

end AegisOt

import PlainSpec.Proofs.Source.Passage

/-!
# What a document keeps of a source

Two things are asked of the passages of a source.  Keywords with a text and bullets announce
statements: these must be the statements of the document, in order.  Comments, metadata and blocks
of data must be found on some slot of the document.  Both are put together from the parts of a
source, so that every rule of the grammar gives account of its own lines only.

## Main definitions

* `Announcement`, `announce`: the statements that passages announce.
* `Slot`, `Document.slots`: the places of a document where something can be kept.
* `Content.KeptIn`: what is written is found on one of the slots.
* `Accounts`: passages announce the statements and are kept in the slots.

## Main results

* `Accounts.append`, `Accounts.mono`: accounts are put together.
-/

namespace PlainSpec

open Grammar Grammar.ReqsML

/-! ## Announced statements -/

/-- What a source says about a statement: its kind, its text and the number of its line. -/
structure Announcement where
  /-- The kind, unless no keyword stands above. -/
  kind : Option StatementKind
  /-- The text. -/
  text : Text
  /-- The number of the line. -/
  number : Nat
deriving DecidableEq

/-- The statement as a source says it. -/
def Statement.announcement? (s : Statement) : Option Announcement :=
  s.line.map fun number => ⟨some s.kind, s.description, number⟩

/-- The statements that passages announce.  A bullet is of the kind of the nearest keyword above
it. -/
def announce (above : Option StatementKind) : List Passage → List Announcement
  | [] => []
  | p :: ps =>
    match p.content with
    | .keyword kind text number =>
      (if text.isEmpty then [] else [⟨some kind, text, number⟩]) ++ announce (some kind) ps
    | .bullet text number => ⟨above, text, number⟩ :: announce above ps
    | _ => announce above ps

/-- The kind of the last keyword of passages. -/
def lastKind (above : Option StatementKind) : List Passage → Option StatementKind
  | [] => above
  | p :: ps =>
    match p.content with
    | .keyword kind _ _ => lastKind (some kind) ps
    | _ => lastKind above ps

theorem announce_append (above : Option StatementKind) (ps qs : List Passage) :
    announce above (ps ++ qs) = announce above ps ++ announce (lastKind above ps) qs := by
  induction ps generalizing above with
  | nil => rfl
  | cons p ps ih =>
    obtain ⟨content, aside⟩ := p
    cases content <;> simp [announce, lastKind, ih]

theorem lastKind_append (above : Option StatementKind) (ps qs : List Passage) :
    lastKind above (ps ++ qs) = lastKind (lastKind above ps) qs := by
  induction ps generalizing above with
  | nil => rfl
  | cons p ps ih =>
    obtain ⟨content, aside⟩ := p
    cases content <;> simp [lastKind, ih]

/-- Whether a passage has nothing to do with statements. -/
def Content.isSilent : Content → Bool
  | .keyword .. | .bullet .. => false
  | _ => true

theorem announce_of_silent {ps : List Passage} (h : ∀ p ∈ ps, p.content.isSilent = true)
    (above : Option StatementKind) : announce above ps = [] ∧ lastKind above ps = above := by
  induction ps with
  | nil => exact ⟨rfl, rfl⟩
  | cons p ps ih =>
    obtain ⟨hannounce, hlast⟩ := ih fun q hq => h q (List.mem_cons_of_mem _ hq)
    have hp := h p List.mem_cons_self
    obtain ⟨content, aside⟩ := p
    cases content with
    | keyword kind text number => cases hp
    | bullet text number => cases hp
    | _ => exact ⟨hannounce, hlast⟩

/-! ## Slots of a document -/

/-- A place of a document where something can be kept. -/
structure Slot where
  /-- Its comments. -/
  comments : Comments
  /-- Its identifier and the labels written on it. -/
  metadata : Metadata
  /-- Its block of data. -/
  data : Option Data
deriving DecidableEq

/-- A statement as a slot. -/
def Statement.slot (s : Statement) : Slot := ⟨s.comments, noMetadata, s.data⟩

/-- A table row as a slot. -/
def Specification.slot (row : Specification) : Slot :=
  ⟨row.comments, ⟨row.identifier, row.labels⟩, none⟩

/-- A template and its statements. -/
def ExampleSet.slots (set : ExampleSet) : List Slot :=
  ⟨set.comments, ⟨set.identifier, set.labels⟩, none⟩ :: set.statements.map Statement.slot

/-- An example, its statements, its template and its row. -/
def Example.slots (e : Example) : List Slot :=
  ⟨e.comments, ⟨e.identifier, e.explicitLabels⟩, none⟩ ::
    (e.statements.map Statement.slot ++ (e.exampleSet.toList.flatMap ExampleSet.slots ++
      e.specification.toList.map Specification.slot))

/-- A requirement and its examples. -/
def Requirement.slots (r : Requirement) : List Slot :=
  ⟨r.comments, ⟨r.identifier, r.explicitLabels⟩, none⟩ :: r.examples.flatMap Example.slots

/-- The requirements of a document and everything below them. -/
def Document.slots (d : Document) : List Slot := d.requirements.flatMap Requirement.slots

/-- What is written is found on one of the slots.  Metadata are found as they are read, both parts
on the same slot, and a block of data as it is read. -/
def Content.KeptIn (slots : List Slot) : Content → Prop
  | .comment t => ∃ slot ∈ slots, t ∈ slot.comments.getD []
  | .metadata t => ∃ slot ∈ slots, readMetadata t = .ok slot.metadata
  | .exampleRow m _ => m = noMetadata ∨ ∃ slot ∈ slots, slot.metadata = m
  | .text body => ∃ slot ∈ slots, slot.data = some (Data.text (Text.join ['\n'] body))
  | .rows run => ∃ slot ∈ slots, ∃ d, slot.data = some d ∧ readRows run = .ok d
  | .keyword .. | .bullet .. | .examples | .other => True

theorem Content.KeptIn.mono {content : Content} {slots more : List Slot} (h : content.KeptIn slots)
    (hsub : slots ⊆ more) : content.KeptIn more := by
  cases content with
  | comment | metadata | text | rows =>
    obtain ⟨slot, hslot, hkept⟩ := h
    exact ⟨slot, hsub hslot, hkept⟩
  | exampleRow =>
    rcases h with hnone | ⟨slot, hslot, hkept⟩
    · exact .inl hnone
    · exact .inr ⟨slot, hsub hslot, hkept⟩
  | keyword | bullet | examples | other => trivial

/-! ## Accounts -/

/-- Every passage is kept in the slots, unless it stands aside. -/
def Kept (ps : List Passage) (slots : List Slot) : Prop :=
  ∀ p ∈ ps, p.aside = false → p.content.KeptIn slots

namespace Kept

variable {ps qs : List Passage} {slots more : List Slot}

theorem mono (h : Kept ps slots) (hsub : slots ⊆ more) : Kept ps more :=
  fun p hp hq => (h p hp hq).mono hsub

theorem append (hp : Kept ps slots) (hq : Kept qs slots) : Kept (ps ++ qs) slots := by
  intro p hmem
  rcases List.mem_append.1 hmem with hmem | hmem
  · exact hp p hmem
  · exact hq p hmem

theorem singleton {p : Passage} (h : p.aside = false → p.content.KeptIn slots) :
    Kept [p] slots := by
  intro q hq
  rw [List.mem_singleton.1 hq]
  exact h

end Kept

/-- The passages announce the statements, whatever stands above them, and are kept in the slots. -/
structure Accounts (ps : List Passage) (ss : List Statement) (slots : List Slot) : Prop where
  announced : ∀ above, (announce above ps).map some = ss.map Statement.announcement?
  kept : Kept ps slots

namespace Accounts

variable {ps qs : List Passage} {ss ts : List Statement} {slots more : List Slot}

theorem nil (slots : List Slot) : Accounts [] [] slots :=
  ⟨fun _ => rfl, fun _ hp => absurd hp List.not_mem_nil⟩

/-- Passages that announce nothing only have to be kept. -/
theorem of_silent (hsilent : ∀ p ∈ ps, p.content.isSilent = true) (h : Kept ps slots) :
    Accounts ps [] slots :=
  ⟨fun above => by rw [(announce_of_silent hsilent above).1]; rfl, h⟩

theorem mono (h : Accounts ps ss slots) (hsub : slots ⊆ more) : Accounts ps ss more :=
  ⟨h.announced, h.kept.mono hsub⟩

/-- **Accounts are put together** in the order of the source. -/
theorem append (hp : Accounts ps ss slots) (hq : Accounts qs ts slots) :
    Accounts (ps ++ qs) (ss ++ ts) slots := by
  refine ⟨fun above => ?_, hp.kept.append hq.kept⟩
  rw [announce_append, List.map_append, List.map_append, hp.announced, hq.announced]

/-- Passages in front that announce nothing only have to be kept. -/
theorem silent_append (hsilent : ∀ p ∈ ps, p.content.isSilent = true) (hp : Kept ps slots)
    (hq : Accounts qs ts slots) : Accounts (ps ++ qs) ts slots :=
  (of_silent hsilent hp).append hq

/-- The account of one more part in front of a list of parts. -/
theorem cons {α : Type} {v : α} {vs : List α} {statements : α → List Statement}
    {slotsOf : α → List Slot} (hv : Accounts ps (statements v) (slotsOf v))
    (hvs : Accounts qs (vs.flatMap statements) (vs.flatMap slotsOf)) :
    Accounts (ps ++ qs) ((v :: vs).flatMap statements) ((v :: vs).flatMap slotsOf) := by
  simp only [List.flatMap_cons]
  exact (hv.mono (List.subset_append_left _ _)).append (hvs.mono (List.subset_append_right _ _))

end Accounts

end PlainSpec

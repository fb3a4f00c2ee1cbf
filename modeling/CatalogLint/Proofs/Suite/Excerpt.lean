/-
**A warning shows the text that the engine meant.**

The positions of a remark are counted in the masked text that the engine was sent, and the warning
shows a window of the plain target text around them.  The mask keeps every position, so the window
is the right one: the target text falls into what is left out before the window, what is shown
before the part that the remark is on, that part, what is shown after it, and the rest.  The lengths
of these five pieces say where the part stands in the message.

Main definitions:

* `CatalogLint.Checker.Grammar.Excerpt` — a target text in five pieces;
* `CatalogLint.Checker.Grammar.Excerpt.Frames` — the pieces are those around a remark;
* `CatalogLint.Checker.Grammar.Excerpt.Meant` — the pieces are reported, and the part that the
  remark is on is what the engine received, but for the mask.

Main results:

* `CatalogLint.Text.slice_append_slice` — windows that touch make up a window;
* `CatalogLint.Checker.Grammar.frames_excerpt` — **where the part that a remark is on stands in the
  window**;
* `CatalogLint.Checker.Grammar.warning_mem_findingsAt_run` — a remark becomes a warning on its
  entry;
* `CatalogLint.Checker.Grammar.meant_run` — **a warning shows the text that the engine meant**.
-/

import CatalogLint.Proofs.Markup.Masked
import CatalogLint.Proofs.Suite.Paragraph
import CatalogLint.Proofs.Suite.Remark

set_option autoImplicit false

namespace CatalogLint

/-! ### Windows that touch -/

namespace Text

variable {text : Text} {first middle last : Nat}

theorem slice_append_slice (hfirst : first ≤ middle) (hlast : middle ≤ last) :
    slice text first middle ++ slice text middle last = slice text first last := by
  -- the second window is cut from what the first one leaves
  have hrest : text.drop middle = (text.drop first).drop (middle - first) := by
    rw [List.drop_drop, Nat.add_sub_cancel' hfirst]
  have hwidth : last - first = (middle - first) + (last - middle) := by omega
  rw [slice, slice, slice, hrest, hwidth, List.take_add]

theorem take_append_slice (h : first ≤ last) :
    text.take first ++ slice text first last = text.take last := by
  have hjoin : slice text 0 first ++ slice text first last = slice text 0 last :=
    slice_append_slice (Nat.zero_le first) h
  simpa only [slice, List.drop_zero, Nat.sub_zero] using hjoin

theorem getElem?_slice {offset : Nat} (h : offset < last - first) :
    (slice text first last)[offset]? = text[first + offset]? := by
  rw [slice, List.getElem?_take_of_lt h, List.getElem?_drop]

end Text

namespace Checker.Grammar

open Engine (Remark Subject)

/-! ### The pieces of a target text -/

/-- A target text in five pieces. -/
structure Excerpt where
  /-- What is left out before the window. -/
  omitted : Text
  /-- What is shown before the part that a remark is on. -/
  before : Text
  marked : Text
  after : Text
  /-- What is left out after the window. -/
  rest : Text

/-- What is shown of the text. -/
def Excerpt.shown (excerpt : Excerpt) : Text := excerpt.before ++ excerpt.marked ++ excerpt.after

def Excerpt.text (excerpt : Excerpt) : Text := excerpt.omitted ++ excerpt.shown ++ excerpt.rest

/-- The pieces are those of a target text around the part that a remark is on. -/
structure Excerpt.Frames (excerpt : Excerpt) (target : Text) (remark : Remark) : Prop where
  text : excerpt.text = target
  /-- The window begins forty characters before the part, or else where the text begins. -/
  start : excerpt.omitted.length = remark.first - 40
  /-- It ends ten characters after the part, or else where the text ends. -/
  stop : (excerpt.omitted ++ excerpt.shown).length = min target.length (remark.last + 10)
  /-- In the window, the part stands behind so many characters. -/
  offset : excerpt.before.length = min remark.first 40
  /-- It has all its characters. -/
  width : excerpt.marked.length = remark.last - remark.first

/-- The pieces of a target text around the part that a remark is on. -/
def excerpt (target : Text) (remark : Remark) : Excerpt where
  omitted := target.take (remark.first - contextBefore)
  before := target.slice (remark.first - contextBefore) remark.first
  marked := target.slice remark.first remark.last
  after := target.slice remark.last (remark.last + contextAfter)
  rest := target.drop (remark.last + contextAfter)

section
variable {target : Text} {remark : Remark}

theorem shown_excerpt (h : remark.first ≤ remark.last) :
    (excerpt target remark).shown =
      target.slice (remark.first - contextBefore) (remark.last + contextAfter) := by
  have hbefore : remark.first - contextBefore ≤ remark.first := Nat.sub_le _ _
  have hafter : remark.last ≤ remark.last + contextAfter := Nat.le_add_right _ _
  rw [Excerpt.shown, excerpt, Text.slice_append_slice hbefore h,
    Text.slice_append_slice (hbefore.trans h) hafter]

/-- The context in a message is what is shown of the text, if the end of the window has a number. -/
theorem shown_excerpt_eq_context (h : remark.first ≤ remark.last)
    (hsum : remark.last + contextAfter < wordBound) :
    (excerpt target remark).shown = context target remark := by
  rw [shown_excerpt h, context, wordSum_of_lt hsum]

/-- **Where the part that a remark is on stands in the window.** -/
theorem frames_excerpt (h : remark.first ≤ remark.last) (hlast : remark.last ≤ target.length) :
    (excerpt target remark).Frames target remark := by
  have hwindow : (excerpt target remark).omitted ++ (excerpt target remark).shown =
      target.take (remark.last + contextAfter) := by
    rw [shown_excerpt h, excerpt]
    exact Text.take_append_slice (by omega)
  refine ⟨?text, ?start, ?stop, ?offset, ?width⟩
  case text =>
    rw [Excerpt.text, hwindow]
    exact List.take_append_drop _ _
  case start =>
    rw [excerpt, List.length_take, contextBefore]
    omega
  case stop =>
    rw [hwindow, List.length_take, contextAfter, Nat.min_comm]
  case offset =>
    rw [excerpt, Text.length_slice, contextBefore]
    omega
  case width =>
    rw [excerpt, Text.length_slice]
    omega

/-- What a message says before it shows the text. -/
def lead : Subject → Text
  | .grammar _ message => message ++ " => "
  | .spelling word => "Unknown word \"" ++ word ++ "\" in "

theorem message_eq (target : Text) (remark : Remark) :
    message target remark = lead remark.subject ++ ("###" ++ context target remark ++ "###") := by
  rw [message]
  cases remark.subject <;> rfl

end

/-! ### What the engine meant -/

/-- The pieces of the target text around a remark are reported, and the part that the remark is on
is what the engine received, except where a quoted span was masked. -/
structure Excerpt.Meant (excerpt : Excerpt) (target sent : Text) (remark : Remark)
    (findings : List Finding) : Prop where
  /-- The pieces are those around the part that the remark is on. -/
  frames : excerpt.Frames target remark
  /-- The warning shows the window between two signs. -/
  reported : ⟨name, .warning, lead remark.subject ++ ("###" ++ excerpt.shown ++ "###")⟩ ∈ findings
  /-- Outside of the quoted spans the engine received the characters that are shown. -/
  agrees : ∀ offset < remark.last - remark.first, ¬Markup.Masked target (remark.first + offset) →
    sent[remark.first + offset]? = excerpt.marked[offset]?
  /-- Inside of them it received the placeholder. -/
  covered : ∀ offset < remark.last - remark.first, Markup.Masked target (remark.first + offset) →
    sent[remark.first + offset]? = some Markup.placeholder

section
variable {σ : Type} {engine : Engine σ} {glossary : Glossary} {dictionary : Dictionary}
  {catalog : Catalog} {session : Suite.Session σ} {remarks : List Remark}

/-- A remark that is not left out becomes a warning on its entry, if every such remark has one. -/
theorem warning_mem_findingsAt_run
    (hanswer : ((session.of 0).analyze engine
      (request (catalog.plainEntries.map Entry.normalizedTarget))).1 = .ok remarks)
    (howned : ∀ other ∈ kept glossary dictionary remarks,
      other.paragraph / 2 < catalog.entries.length)
    {index : Nat} {tracked : TrackedEntry} (hindex : catalog.entries[index]? = some tracked)
    {remark : Remark} (hremark : remark ∈ kept glossary dictionary remarks)
    (hparagraph : remark.paragraph / 2 = index) :
    warning tracked.entry.normalizedTarget remark ∈
      (Suite.run ⟨[.grammar engine glossary dictionary]⟩ catalog session).catalog.findingsAt
        index := by
  have hne : catalog.plainEntries ≠ [] := by
    intro hnil
    have hempty : catalog.entries = [] := List.map_eq_nil_iff.1 hnil
    simp [hempty] at hindex
  have hbelow : ∀ other ∈ kept glossary dictionary remarks,
      other.paragraph / 2 < catalog.plainEntries.length := by
    rw [Catalog.length_plainEntries]
    exact howned
  have hfound := (fst_findings_eq_ok_iff engine glossary dictionary hne).2
    ⟨remarks, hanswer, hbelow, rfl⟩
  rw [(Suite.run_singleton_of_ok hfound).1, (attributed_add howned).findings index tracked hindex]
  exact List.mem_append_right _
    (List.mem_map_of_mem (mem_remarksOn_iff.2 ⟨hremark, hparagraph⟩))

/-- **A warning shows the text that the engine meant.** -/
theorem meant_run {path : Path} {content : Text}
    (h : Catalog.parse path content = .ok catalog)
    (hanswer : ((session.of 0).analyze engine
      (request (catalog.plainEntries.map Entry.normalizedTarget))).1 = .ok remarks)
    (howned : ∀ other ∈ kept glossary dictionary remarks,
      other.paragraph / 2 < catalog.entries.length)
    {index : Nat} {tracked : TrackedEntry} (hindex : catalog.entries[index]? = some tracked)
    {remark : Remark} (hremark : remark ∈ kept glossary dictionary remarks)
    (hparagraph : remark.paragraph = 2 * index ∨ remark.paragraph = 2 * index + 1)
    {sent : Text} (hsent : (paragraphs catalog.plainEntries)[2 * index]? = some sent)
    (hfirst : remark.first ≤ remark.last) (hlast : remark.last ≤ sent.length)
    (hsum : remark.last + contextAfter < wordBound) :
    ∃ excerpt : Excerpt, excerpt.Meant tracked.entry.normalizedTarget sent remark
      ((Suite.run ⟨[.grammar engine glossary dictionary]⟩ catalog session).catalog.findingsAt
        index) := by
  have hentry : catalog.plainEntries[index]? = some tracked.entry := by
    rw [Catalog.plainEntries, List.getElem?_map, hindex, Option.map_some]
  have hne : catalog.plainEntries ≠ [] := fun hnil => by simp [hnil] at hentry
  -- what was sent for the entry is the mask of its target text
  have hmask : sent = Markup.maskQuoted tracked.entry.normalizedTarget := by
    rw [paragraphs_eq hne (Catalog.newline_not_mem_targetText h),
      (numbered_intersperse _).target index _ hentry, Option.some.injEq] at hsent
    exact hsent.symm
  subst hmask
  rw [Markup.length_maskQuoted] at hlast
  have hshown : (excerpt tracked.entry.normalizedTarget remark).shown =
      context tracked.entry.normalizedTarget remark := shown_excerpt_eq_context hfirst hsum
  refine ⟨excerpt tracked.entry.normalizedTarget remark, frames_excerpt hfirst hlast, ?reported,
    fun offset hoffset hplain => ?agrees, fun offset _ hmasked => ?covered⟩
  case reported =>
    have hreported := warning_mem_findingsAt_run hanswer howned hindex hremark (by omega)
    rwa [warning, message_eq, ← hshown] at hreported
  case agrees =>
    rw [Markup.getElem?_maskQuoted_of_not_masked hplain]
    exact (Text.getElem?_slice hoffset).symm
  case covered =>
    exact Markup.getElem?_maskQuoted_of_masked hmasked

end

/-- A file with two entries; the translation of the second one has markup, and it is longer than
what is shown of it. -/
def functionContent : Text :=
  "#: a\nmsgid \"x\"\nmsgstr \"Voir aussi\"\n" ++ "#: b\nmsgid \"y\"\nmsgstr \"\"\n" ++
    "\"Pour un objet vide créé à la volée, la fonction \x60\x60len()\x60\x60 sont sûre.\"\n"

def functionEntry : Entry :=
  { reference := "b", firstLine := 4, lastLine := 7, source := ["y"],
    target :=
      ["", "Pour un objet vide créé à la volée, la fonction \x60\x60len()\x60\x60 sont sûre."] }

def functionCatalog : Catalog where
  path := ⟨"a.po"⟩
  entries :=
    [{ entry :=
         { reference := "a", firstLine := 1, lastLine := 3, source := ["x"],
           target := ["Voir aussi"] } },
     { entry := functionEntry }]

/-- A remark on the name of the function and the verb behind it. -/
def functionRemark : Remark := ⟨2, 48, 62, .grammar "conj" "Accord."⟩

def functionSession : Suite.Session Engine.Prepared where
  state := { answers := [.ok [functionRemark]], outcome := .ok () }

theorem meant_run_function :
    Catalog.parse ⟨"a.po"⟩ functionContent = .ok functionCatalog ∧
      (paragraphs functionCatalog.plainEntries)[2]? =
        some ("Pour un objet vide créé à la volée, la fonction «\u00a0xxxxx\u00a0» sont sûre." :
          Text) ∧
      (∃ excerpt : Excerpt, excerpt.Meant functionEntry.normalizedTarget
        "Pour un objet vide créé à la volée, la fonction «\u00a0xxxxx\u00a0» sont sûre."
        functionRemark
        ((Suite.run ⟨[.grammar Engine.prepared ⟨[]⟩ {}]⟩ functionCatalog
          functionSession).catalog.findingsAt 1)) ∧
      (Suite.run ⟨[.grammar Engine.prepared ⟨[]⟩ {}]⟩ functionCatalog
          functionSession).catalog.findingsAt 1 =
        [⟨name, .warning, "Accord. => ###" ++
          "objet vide créé à la volée, la fonction «\u00a0len()\u00a0» sont sûre." ++ "###"⟩] := by
  have hparse : Catalog.parse ⟨"a.po"⟩ functionContent = .ok functionCatalog := by decide +kernel
  have hanswer : ∀ text, ((functionSession.of 0).analyze Engine.prepared text).1 =
      .ok [functionRemark] := fun _ => rfl
  have hkept : kept ⟨[]⟩ {} [functionRemark] = [functionRemark] := by decide +kernel
  have howned : ∀ other ∈ kept ⟨[]⟩ {} [functionRemark],
      other.paragraph / 2 < functionCatalog.entries.length := by
    rw [hkept]
    decide
  have hindex : functionCatalog.entries[1]? = some { entry := functionEntry } := rfl
  have hremark : functionRemark ∈ kept ⟨[]⟩ {} [functionRemark] := by
    rw [hkept]
    exact List.mem_singleton.2 rfl
  have hsent : (paragraphs functionCatalog.plainEntries)[2]? =
      some ("Pour un objet vide créé à la volée, la fonction «\u00a0xxxxx\u00a0» sont sûre." :
        Text) := by decide +kernel
  have hmeant := meant_run hparse (hanswer _) howned hindex hremark (.inl rfl) hsent
    (by decide) (by decide) (by decide)
  exact ⟨hparse, hsent, hmeant, by decide +kernel⟩

end Checker.Grammar

end CatalogLint

/-
**A personal dictionary accepts what it was told, and nothing else.**

A dictionary is told words one by one or many at once, and it keeps two forms of each.  The forms of
different words may coincide, and a word of nothing but blanks has none; so what a dictionary holds
is described by the set of the words that it was told, whatever calls they came in.  A dictionary
that is made of sources is one that was told all their lines, unless one of them supplies no text:
then there is no dictionary, and the first such source is reported.

Main definitions:

* `CatalogLint.Dictionary.Call`, `CatalogLint.Dictionary.after`, `CatalogLint.Dictionary.told` — the
  calls, the dictionary after some calls, and the words of the calls;
* `CatalogLint.Dictionary.IsFormOf`, `CatalogLint.Dictionary.formsOf` — the forms of some words;
* `CatalogLint.Dictionary.Accepts` — a dictionary accepts the forms of some words and no others, and
  the check of spelling leaves them alone;
* `CatalogLint.Files.HasText` — a path leads to a file with a text;
* `CatalogLint.Dictionary.Supplies`, `CatalogLint.Dictionary.Denies` — a source has a text, or has
  none;
* `CatalogLint.Dictionary.Loading` — what comes of loading sources and words.

Main results:

* `CatalogLint.Dictionary.Knows.perform`, `CatalogLint.Dictionary.knows_after` — **what one call
  adds, and what a dictionary holds after any calls**;
* `CatalogLint.Dictionary.mapM_readSource_ok_iff`,
  `CatalogLint.Dictionary.mapM_readSource_error_iff` — all sources are read, or the first that
  cannot be read is reported;
* `CatalogLint.Checker.Grammar.exists_of_mem_findings` — a finding comes from a remark that is not
  on an accepted word;
* `CatalogLint.Dictionary.accepts_exactly` — **a dictionary accepts what it was told**.
-/

import CatalogLint.Proofs.Settings.RoundTrip
import CatalogLint.Proofs.Suite.Remark
import Mathlib.Data.Finset.Card

set_option autoImplicit false

namespace CatalogLint

/-! ### The forms of words -/

namespace Dictionary

/-- The forms of a word: as it is told, without the blanks around it, and in title case. -/
def formsOf (word : Text) : List Text :=
  if Text.trim word = [] then [] else [Text.trim word, Text.titleCase (Text.trim word)]

/-- A text is a form of one of some words. -/
def IsFormOf (words : List Text) (form : Text) : Prop :=
  ∃ word ∈ words, Text.trim word ≠ [] ∧
    (form = Text.trim word ∨ form = Text.titleCase (Text.trim word))

section
variable {dictionary : Dictionary} {words more : List Text} {word form : Text}

theorem mem_formsOf_iff : form ∈ formsOf word ↔
    Text.trim word ≠ [] ∧ (form = Text.trim word ∨ form = Text.titleCase (Text.trim word)) := by
  by_cases h : Text.trim word = []
  · simp [formsOf, h]
  · simp [formsOf, h]

theorem isFormOf_iff : IsFormOf words form ↔ form ∈ words.flatMap formsOf := by
  simp only [IsFormOf, List.mem_flatMap, mem_formsOf_iff]

theorem isFormOf_append :
    IsFormOf (words ++ more) form ↔ IsFormOf words form ∨ IsFormOf more form := by
  simp only [isFormOf_iff, List.flatMap_append, List.mem_append]

/-! ### What a call adds -/

/-- A dictionary holds the forms of some words and no others, each once. -/
structure Knows (dictionary : Dictionary) (words : List Text) : Prop where
  /-- No form is held twice. -/
  nodup : dictionary.forms.Nodup
  /-- The forms are those of the words. -/
  mem : ∀ form, form ∈ dictionary.forms ↔ IsFormOf words form

theorem knows_empty : Knows {} [] where
  nodup := List.nodup_nil
  mem := by simp [IsFormOf]

theorem nodup_insertForm (h : dictionary.forms.Nodup) :
    (dictionary.insertForm form).forms.Nodup := by
  rw [insertForm]
  split
  · exact h
  · next hnew =>
    refine List.nodup_cons.2 ⟨fun hmem => hnew ?_, h⟩
    simpa using hmem

theorem nodup_insert (h : dictionary.forms.Nodup) : (dictionary.insert word).forms.Nodup := by
  simp only [insert]
  split
  · exact h
  · exact nodup_insertForm (nodup_insertForm h)

/-- One more word adds its forms. -/
theorem Knows.insert (h : Knows dictionary words) (word : Text) :
    Knows (dictionary.insert word) (words ++ [word]) where
  nodup := nodup_insert h.nodup
  mem form := by
    have hword : IsFormOf [word] form ↔ Text.trim word ≠ [] ∧
        (form = Text.trim word ∨ form = Text.titleCase (Text.trim word)) := by
      simp [IsFormOf]
    rw [mem_forms_insert, isFormOf_append, h.mem, hword, or_comm]

/-- More words add their forms. -/
theorem Knows.insertAll (h : Knows dictionary words) :
    Knows (dictionary.insertAll more) (words ++ more) := by
  induction more generalizing dictionary words with
  | nil =>
      rw [List.append_nil]
      exact h
  | cons word more ih =>
      -- the words told so far end in the one that is inserted first
      have hnext := ih (h.insert word)
      rwa [List.append_assoc] at hnext

theorem Knows.contains_iff (h : Knows dictionary words) :
    dictionary.contains word = true ↔ IsFormOf words (Text.trim word) := by
  rw [Dictionary.contains_iff, h.mem]

/-- A dictionary has the size of the set of its forms. -/
theorem Knows.size_eq (h : Knows dictionary words) :
    dictionary.size = (words.flatMap formsOf).toFinset.card := by
  have hset : dictionary.forms.toFinset = (words.flatMap formsOf).toFinset := by
    ext form
    rw [List.mem_toFinset, List.mem_toFinset, h.mem, isFormOf_iff]
  rw [size, ← List.toFinset_card_of_nodup h.nodup, hset]

/-- Which words were told is all that counts: not their order, and not how often. -/
theorem isFormOf_congr (h : ∀ word, word ∈ words ↔ word ∈ more) :
    IsFormOf words form ↔ IsFormOf more form :=
  exists_congr fun word => and_congr_left fun _ => h word

theorem card_formsOf_congr (h : ∀ word, word ∈ words ↔ word ∈ more) :
    (words.flatMap formsOf).toFinset.card = (more.flatMap formsOf).toFinset.card := by
  congr 1
  ext form
  rw [List.mem_toFinset, List.mem_toFinset, ← isFormOf_iff, ← isFormOf_iff, isFormOf_congr h]

end

/-! ### Calls -/

/-- A call that tells a dictionary words. -/
inductive Call where
  | insert (word : Text)
  | extend (words : List Text)

def Call.words : Call → List Text
  | insert word => [word]
  | extend words => words

/-- The dictionary after a call. -/
def Call.perform (dictionary : Dictionary) : Call → Dictionary
  | insert word => dictionary.insert word
  | extend words => dictionary.insertAll words

/-- The dictionary after some calls, which was empty before them. -/
def after (calls : List Call) : Dictionary := calls.foldl Call.perform {}

def told (calls : List Call) : List Text := calls.flatMap Call.words

/-- **What one call adds** are the forms of its words. -/
theorem Knows.perform {dictionary : Dictionary} {words : List Text} (h : Knows dictionary words)
    (call : Call) :
    Knows (call.perform dictionary) (words ++ call.words) := by
  cases call with
  | insert word => exact h.insert word
  | extend more => exact h.insertAll

/-- **What a dictionary holds after any calls** are the forms of their words. -/
theorem knows_after (calls : List Call) : Knows (after calls) (told calls) := by
  induction calls using List.reverseRecOn with
  | nil => exact knows_empty
  | append_singleton calls call ih =>
      have hafter : after (calls ++ [call]) = call.perform (after calls) := by
        rw [after, List.foldl_append]
        rfl
      have htold : told (calls ++ [call]) = told calls ++ call.words := by
        rw [told, List.flatMap_append, List.flatMap_singleton, told]
      rw [hafter, htold]
      exact ih.perform call

/-- Whether the remark is on the spelling of an accepted word. -/
def excuses (dictionary : Dictionary) (remark : Engine.Remark) : Bool :=
  match remark.subject with
  | .spelling word => dictionary.contains word
  | .grammar _ _ => false

end Dictionary

/-! ### Remarks on accepted words -/

namespace Checker.Grammar

open Engine (Remark)

section
variable {glossary : Glossary} {dictionary : Dictionary}

/-- A remark on an accepted word is left out. -/
theorem isIgnored_of_excuses {remark : Remark} (h : dictionary.excuses remark = true) :
    isIgnored glossary dictionary remark = true := by
  rw [Dictionary.excuses] at h
  rw [isIgnored]
  cases hsubject : remark.subject with
  | grammar rule message => simp [hsubject] at h
  | spelling word =>
      rw [hsubject] at h
      simp only [h, Bool.or_true, Bool.true_or]

/-- So it makes no difference whether there are such remarks. -/
theorem kept_filter_excuses (remarks : List Remark) :
    kept glossary dictionary (remarks.filter fun remark => !dictionary.excuses remark) =
      kept glossary dictionary remarks := by
  rw [kept, List.filter_filter, kept]
  refine List.filter_congr fun remark _ => ?_
  cases hexcused : dictionary.excuses remark with
  | true => simp [isIgnored_of_excuses hexcused]
  | false => simp

variable {σ : Type} {engine : Engine σ} {entries : List Entry} {session : Engine.Session σ}

/-- **A finding comes from a remark that is not on an accepted word.** -/
theorem exists_of_mem_findings {found : List (List Finding)} {index : Nat} {row : List Finding}
    {finding : Finding}
    (h : ((Checker.grammar engine glossary dictionary).findings entries session).1 = .ok found)
    (hrow : found[index]? = some row) (hfinding : finding ∈ row) :
    ∃ remarks remark entry,
      (session.analyze engine (request (entries.map Entry.normalizedTarget))).1 = .ok remarks ∧
      remark ∈ remarks ∧ dictionary.excuses remark = false ∧ remark.paragraph / 2 = index ∧
      entries[index]? = some entry ∧ finding = warning entry.normalizedTarget remark := by
  rcases List.eq_nil_or_concat entries with rfl | ⟨front, last, hentries⟩
  · cases h
    simp at hrow
  have hne : entries ≠ [] := by simp [hentries]
  obtain ⟨remarks, hanswer, -, rfl⟩ := (fst_findings_eq_ok_iff engine glossary dictionary hne).1 h
  -- the row is that of the entry with the same index
  simp only [List.getElem?_map, List.getElem?_zipIdx, Option.map_map, Option.map_eq_some_iff]
    at hrow
  obtain ⟨entry, hentry, rfl⟩ := hrow
  simp only [Function.comp_apply, Nat.zero_add, warningsOn_eq, List.mem_map] at hfinding
  obtain ⟨remark, hremark, rfl⟩ := hfinding
  obtain ⟨hremark, hindex⟩ := mem_remarksOn_iff.1 hremark
  obtain ⟨hmem, hkept⟩ := List.mem_filter.1 hremark
  refine ⟨remarks, remark, entry, hanswer, hmem, ?_, hindex, hentry, rfl⟩
  cases hexcused : dictionary.excuses remark with
  | false => rfl
  | true => simp [isIgnored_of_excuses hexcused] at hkept

/-- An engine that is silent on accepted words leads to the same findings. -/
theorem fst_findings_of_silent {τ : Type} {other : Engine τ} {session' : Engine.Session τ}
    {remarks : List Remark}
    (h : (session.analyze engine (request (entries.map Entry.normalizedTarget))).1 = .ok remarks)
    (hother : (session'.analyze other (request (entries.map Entry.normalizedTarget))).1 =
      .ok (remarks.filter fun remark => !dictionary.excuses remark)) :
    ((Checker.grammar other glossary dictionary).findings entries session').1 =
      ((Checker.grammar engine glossary dictionary).findings entries session).1 := by
  rcases List.eq_nil_or_concat entries with rfl | ⟨front, last, hentries⟩
  · rfl
  have hne : entries ≠ [] := by simp [hentries]
  rw [fst_findings _ _ _ hne, fst_findings _ _ _ hne, h, hother]
  exact congrArg (assign _) (kept_filter_excuses remarks)

end

end Checker.Grammar

/-! ### Files with words -/

/-- A path leads to a file that holds the text in UTF-8. -/
def Files.HasText (files : Files) (path : Path) (text : Text) : Prop :=
  ∃ executable, files.tree path = .ok (.file (Text.toString text).toUTF8 executable)

/-- The texts that can be read are those in the files. -/
theorem Files.readText_eq_ok_iff {files : Files} {path : Path} {text : Text} :
    files.readText path = .ok text ↔ files.HasText path text := by
  constructor
  · intro h
    cases htree : files.tree path with
    | error error => simp [readText, read, htree, bind, Except.bind] at h
    | ok tree =>
        cases tree with
        | directory entries => simp [readText, read, htree, bind, Except.bind] at h
        | file bytes executable =>
            simp only [readText, read, htree, bind, Except.bind] at h
            refine ⟨executable, ?_⟩
            cases htext : textOf? bytes with
            | none => simp [htext] at h
            | some content =>
                simp only [htext, Except.ok.injEq] at h
                rw [textOf?, String.fromUTF8?] at htext
                split at htext
                · next hvalid =>
                  cases htext
                  rw [htree, ← h, Text.toString, String.ofList_toList]
                  rfl
                · cases htext
  · rintro ⟨executable, htree⟩
    have hread : files.read path = .ok (Text.toString text).toUTF8 := by
      simp only [read, htree, bind, Except.bind]
    exact readText_of_read hread

namespace Dictionary

/-- A source supplies a text, which is got at an address or held by a file. -/
inductive Supplies (fetch : Fetch) (files : Files) (source text : Text) : Prop
  /-- The source is an address, and the text is got there. -/
  | got (haddress : isAddress source = true) (h : fetch source = .ok text)
  /-- The source is the path of a file, and the file holds the text. -/
  | held (hpath : isAddress source = false) (h : files.HasText ⟨source⟩ text)

/-- A source supplies no text, for a reason that the error reports. -/
inductive Denies (fetch : Fetch) (files : Files) (source : Text) : Error → Prop
  /-- The source is an address, and there is nothing to be got. -/
  | got {reason : Text} (haddress : isAddress source = true) (h : fetch source = .error reason) :
      Denies fetch files source (.http source reason)
  /-- The source is the path of a file, and the file cannot be read or holds no text. -/
  | held {reason : IoError} (hpath : isAddress source = false)
      (h : files.readText ⟨source⟩ = .error reason) :
      Denies fetch files source (.io ⟨source⟩ reason)

section
variable {fetch : Fetch} {files : Files} {source : Text} {sources words : List Text}

theorem sourceText_of_isAddress (h : isAddress source = true) :
    sourceText fetch files source = (fetch source).mapError (.http source) := if_pos h

theorem sourceText_of_not_isAddress (h : isAddress source = false) :
    sourceText fetch files source = (files.readText ⟨source⟩).mapError (.io ⟨source⟩) :=
  if_neg (Bool.eq_false_iff.1 h)

theorem Supplies.sourceText_eq {text : Text} (h : Supplies fetch files source text) :
    sourceText fetch files source = .ok text := by
  cases h with
  | got haddress h => rw [sourceText_of_isAddress haddress, h, Except.mapError]
  | held hpath h =>
      rw [sourceText_of_not_isAddress hpath, Files.readText_eq_ok_iff.2 h, Except.mapError]

theorem Denies.sourceText_eq {error : Error} (h : Denies fetch files source error) :
    sourceText fetch files source = .error error := by
  cases h with
  | got haddress h => rw [sourceText_of_isAddress haddress, h, Except.mapError]
  | held hpath h => rw [sourceText_of_not_isAddress hpath, h, Except.mapError]

/-- A source supplies a text, or denies it. -/
theorem supplies_or_denies (fetch : Fetch) (files : Files) (source : Text) :
    (∃ text, Supplies fetch files source text) ∨ ∃ error, Denies fetch files source error := by
  cases haddress : isAddress source with
  | true =>
      cases hfetch : fetch source with
      | ok text => exact .inl ⟨text, .got haddress hfetch⟩
      | error reason => exact .inr ⟨_, .got haddress hfetch⟩
  | false =>
      cases hread : files.readText ⟨source⟩ with
      | ok text => exact .inl ⟨text, .held haddress (Files.readText_eq_ok_iff.1 hread)⟩
      | error reason => exact .inr ⟨_, .held haddress hread⟩

theorem supplies_iff {text : Text} :
    Supplies fetch files source text ↔ sourceText fetch files source = .ok text := by
  refine ⟨Supplies.sourceText_eq, fun h => ?_⟩
  obtain ⟨other, hother⟩ | ⟨error, herror⟩ := supplies_or_denies fetch files source
  · cases hother.sourceText_eq.symm.trans h
    exact hother
  · cases herror.sourceText_eq.symm.trans h

theorem denies_iff {error : Error} :
    Denies fetch files source error ↔ sourceText fetch files source = .error error := by
  refine ⟨Denies.sourceText_eq, fun h => ?_⟩
  obtain ⟨text, htext⟩ | ⟨other, hother⟩ := supplies_or_denies fetch files source
  · cases htext.sourceText_eq.symm.trans h
  · cases hother.sourceText_eq.symm.trans h
    exact hother

theorem Denies.not_supplies {error : Error} {text : Text} (h : Denies fetch files source error) :
    ¬Supplies fetch files source text := by
  intro hsupplies
  cases h.sourceText_eq.symm.trans hsupplies.sourceText_eq

theorem readSource_ok_iff {lines : List Text} :
    readSource fetch files source = .ok lines ↔
      ∃ text, Supplies fetch files source text ∧ Text.lines text = lines := by
  simp only [supplies_iff, readSource]
  cases sourceText fetch files source <;> simp [Except.map]

theorem readSource_error_iff {error : Error} :
    readSource fetch files source = .error error ↔ Denies fetch files source error := by
  rw [denies_iff, readSource]
  cases sourceText fetch files source <;> simp [Except.map]

/-- The first source is read before the others. -/
theorem mapM_readSource_cons :
    (source :: sources).mapM (readSource fetch files) =
      match readSource fetch files source, sources.mapM (readSource fetch files) with
      | .error error, _ => .error error
      | .ok _, .error error => .error error
      | .ok first, .ok others => .ok (first :: others) := by
  rw [List.mapM_cons]
  rcases readSource fetch files source with _ | first
  · rfl
  · rcases sources.mapM (readSource fetch files) with _ | others <;> rfl

/-- All sources are read if each of them supplies a text. -/
theorem mapM_readSource_ok_iff {lines : List (List Text)} :
    sources.mapM (readSource fetch files) = .ok lines ↔
      ∃ texts, List.Forall₂ (fun source text => Supplies fetch files source text) sources texts ∧
        texts.map Text.lines = lines := by
  induction sources generalizing lines with
  | nil => simp [pure, Except.pure, eq_comm]
  | cons source sources ih =>
      rw [mapM_readSource_cons]
      constructor
      · intro h
        split at h
        · cases h
        · cases h
        · next first others hfirst hothers =>
          cases h
          obtain ⟨text, htext, rfl⟩ := readSource_ok_iff.1 hfirst
          obtain ⟨texts, htexts, rfl⟩ := ih.1 hothers
          exact ⟨text :: texts, .cons htext htexts, rfl⟩
      · rintro ⟨_, _ | ⟨htext, htexts⟩, rfl⟩
        rw [readSource_ok_iff.2 ⟨_, htext, rfl⟩, ih.2 ⟨_, htexts, rfl⟩]
        rfl

/-- The first source that cannot be read is reported. -/
theorem mapM_readSource_error_iff {error : Error} :
    sources.mapM (readSource fetch files) = .error error ↔
      ∃ before source later, sources = before ++ source :: later ∧
        (∀ other ∈ before, ∃ text, Supplies fetch files other text) ∧
        Denies fetch files source error := by
  simp only [← readSource_error_iff]
  induction sources with
  | nil => simp [pure, Except.pure]
  | cons source sources ih =>
      rw [mapM_readSource_cons]
      constructor
      · intro h
        split at h
        · next reason hfirst =>
          cases h
          exact ⟨[], source, sources, rfl, by simp, hfirst⟩
        · next first reason hfirst hothers =>
          cases h
          obtain ⟨before, other, later, rfl, hbefore, herror⟩ := ih.1 hothers
          obtain ⟨text, htext, -⟩ := readSource_ok_iff.1 hfirst
          exact ⟨source :: before, other, later, rfl,
            List.forall_mem_cons.2 ⟨⟨text, htext⟩, hbefore⟩, herror⟩
        · cases h
      · rintro ⟨_ | ⟨first, before⟩, other, later, hsources, hbefore, herror⟩
        · obtain ⟨rfl, rfl⟩ := List.cons.inj hsources
          rw [herror]
        · obtain ⟨rfl, rfl⟩ := List.cons.inj hsources
          obtain ⟨⟨text, htext⟩, hbefore⟩ := List.forall_mem_cons.1 hbefore
          rw [readSource_ok_iff.2 ⟨text, htext, rfl⟩,
            ih.2 ⟨before, other, later, rfl, hbefore, herror⟩]

/-- Texts for all sources are given by a text for each. -/
theorem exists_forall₂_supplies_iff :
    (∃ texts, List.Forall₂ (fun source text => Supplies fetch files source text) sources texts) ↔
      ∀ source ∈ sources, ∃ text, Supplies fetch files source text := by
  constructor
  · rintro ⟨texts, h⟩
    induction h with
    | nil => simp
    | cons htext _ ih => exact List.forall_mem_cons.2 ⟨⟨_, htext⟩, ih⟩
  · intro h
    choose! text htext using h
    exact ⟨sources.map text, List.forall₂_map_right_iff.2 (List.forall₂_same.2 htext)⟩

/-- A dictionary is made of the lines of all sources, or not at all. -/
theorem load_eq : load fetch files sources words =
    match sources.mapM (readSource fetch files) with
    | .error error => .error error
    | .ok lines => .ok (({} : Dictionary).insertAll (lines.flatten ++ words)) := by
  rw [load]
  cases sources.mapM (readSource fetch files) <;> rfl

end

/-! ### What a dictionary was told -/

/-- A dictionary accepts the forms of some words and no others. -/
structure Accepts (dictionary : Dictionary) (words : List Text) : Prop where
  /-- An accepted word is a form of one of the words, but for the blanks around it. -/
  contains : ∀ word, dictionary.contains word = true ↔ ∃ told ∈ words, Text.trim told ≠ [] ∧
    (Text.trim word = Text.trim told ∨ Text.trim word = Text.titleCase (Text.trim told))
  /-- The forms are counted once each. -/
  size : dictionary.size = (words.flatMap formsOf).toFinset.card
  /-- No accepted word is reported as misspelled: a finding comes from a remark that is on grammar,
  or on a word which is not accepted. -/
  reported : ∀ {σ : Type} (engine : Engine σ) (glossary : Glossary) (entries : List Entry)
    (session : Engine.Session σ) (found : List (List Finding)) (index : Nat)
    (row : List Finding) (finding : Finding),
    ((Checker.grammar engine glossary dictionary).findings entries session).1 = .ok found →
    found[index]? = some row → finding ∈ row →
    ∃ remarks remark entry,
      (session.analyze engine
        (Checker.Grammar.request (entries.map Entry.normalizedTarget))).1 = .ok remarks ∧
      remark ∈ remarks ∧ remark.paragraph / 2 = index ∧ entries[index]? = some entry ∧
      finding = Checker.Grammar.warning entry.normalizedTarget remark ∧
      ∀ word, remark.subject = .spelling word → ¬IsFormOf words (Text.trim word)
  /-- Remarks on accepted words have no effect at all: an engine that makes all other remarks leads
  to the same findings, or to the same failure. -/
  unmoved : ∀ {σ τ : Type} (engine : Engine σ) (silent : Engine τ) (glossary : Glossary)
    (entries : List Entry) (session : Engine.Session σ) (session' : Engine.Session τ)
    (remarks : List Engine.Remark),
    (session.analyze engine
      (Checker.Grammar.request (entries.map Entry.normalizedTarget))).1 = .ok remarks →
    (session'.analyze silent
      (Checker.Grammar.request (entries.map Entry.normalizedTarget))).1 =
        .ok (remarks.filter fun remark => !dictionary.excuses remark) →
    ((Checker.grammar silent glossary dictionary).findings entries session').1 =
      ((Checker.grammar engine glossary dictionary).findings entries session).1

theorem Knows.accepts {dictionary : Dictionary} {words : List Text} (h : Knows dictionary words) :
    Accepts dictionary words where
  contains word := h.contains_iff
  size := h.size_eq
  reported engine glossary entries session found index row finding hfound hrow hfinding := by
    obtain ⟨remarks, remark, entry, hanswer, hmem, hexcused, hindex, hentry, hwarning⟩ :=
      Checker.Grammar.exists_of_mem_findings hfound hrow hfinding
    refine ⟨remarks, remark, entry, hanswer, hmem, hindex, hentry, hwarning, ?_⟩
    intro word hword hform
    have hrejected : dictionary.contains word = false := by
      simpa only [excuses, hword] using hexcused
    rw [← h.contains_iff, hrejected] at hform
    cases hform
  unmoved engine silent glossary entries session session' remarks hanswer hsilent :=
    Checker.Grammar.fst_findings_of_silent hanswer hsilent

/-- What comes of loading the words of some sources, and further words. -/
structure Loading (fetch : Fetch) (files : Files) (sources words : List Text) : Prop where
  /-- There is a dictionary if every source supplies a text. -/
  succeeds : (∃ dictionary, load fetch files sources words = .ok dictionary) ↔
    ∀ source ∈ sources, ∃ text, Supplies fetch files source text
  /-- It was told all lines of all sources and the further words. -/
  accepts : ∀ dictionary, load fetch files sources words = .ok dictionary →
    ∃ texts, List.Forall₂ (fun source text => Supplies fetch files source text) sources texts ∧
      Accepts dictionary (texts.flatMap Text.lines ++ words)
  /-- Otherwise the first source that supplies no text is reported, with the reason. -/
  fails : ∀ error, load fetch files sources words = .error error ↔
    ∃ before source later, sources = before ++ source :: later ∧
      (∀ other ∈ before, ∃ text, Supplies fetch files other text) ∧
      (∀ text, ¬Supplies fetch files source text) ∧ Denies fetch files source error

theorem loading (fetch : Fetch) (files : Files) (sources words : List Text) :
    Loading fetch files sources words where
  succeeds := by
    rw [← exists_forall₂_supplies_iff, load_eq]
    cases hlines : sources.mapM (readSource fetch files) with
    | ok lines =>
        obtain ⟨texts, htexts, -⟩ := mapM_readSource_ok_iff.1 hlines
        exact ⟨fun _ => ⟨texts, htexts⟩, fun _ => ⟨_, rfl⟩⟩
    | error error =>
        constructor
        · rintro ⟨dictionary, h⟩
          cases h
        · rintro ⟨texts, htexts⟩
          cases hlines.symm.trans (mapM_readSource_ok_iff.2 ⟨texts, htexts, rfl⟩)
  accepts dictionary h := by
    rw [load_eq] at h
    split at h
    · cases h
    · next lines hlines =>
      cases h
      obtain ⟨texts, htexts, rfl⟩ := mapM_readSource_ok_iff.1 hlines
      exact ⟨texts, htexts, knows_empty.insertAll.accepts⟩
  fails error := by
    have hload : load fetch files sources words = .error error ↔
        sources.mapM (readSource fetch files) = .error error := by
      rw [load_eq]
      cases sources.mapM (readSource fetch files) <;> simp
    have hdenied : ∀ source, Denies fetch files source error ↔
        (∀ text, ¬Supplies fetch files source text) ∧ Denies fetch files source error :=
      fun source => iff_and_self.2 fun h _ => h.not_supplies
    simp only [hload, mapM_readSource_error_iff, ← hdenied]

/-- What calls make of a dictionary. -/
structure Remembers (calls : List Call) : Prop where
  /-- The forms of all words of the calls are accepted. -/
  accepts : Accepts (after calls) (told calls)
  /-- Other calls with the same words, in any order and any number, lead to the same. -/
  same : ∀ others, (∀ word, word ∈ told calls ↔ word ∈ told others) →
    (∀ word, (after calls).contains word = (after others).contains word) ∧
      (after calls).size = (after others).size
  /-- Nothing is removed by later calls. -/
  grows : ∀ later word, (after calls).contains word = true →
    (after (calls ++ later)).contains word = true

theorem remembers (calls : List Call) : Remembers calls where
  accepts := (knows_after calls).accepts
  same others h := by
    refine ⟨fun word => ?_, ?_⟩
    · rw [Bool.eq_iff_iff, (knows_after calls).contains_iff, (knows_after others).contains_iff,
        isFormOf_congr h]
    · rw [(knows_after calls).size_eq, (knows_after others).size_eq, card_formsOf_congr h]
  grows later word h := by
    rw [(knows_after calls).contains_iff] at h
    rw [(knows_after (calls ++ later)).contains_iff, told, List.flatMap_append, isFormOf_append]
    exact .inl h

/-- **A dictionary accepts what it was told**, by calls, by files or by what is got at addresses. -/
theorem accepts_exactly (calls : List Call) (fetch : Fetch) (files : Files)
    (sources words : List Text) : Remembers calls ∧ Loading fetch files sources words :=
  ⟨remembers calls, loading fetch files sources words⟩

end Dictionary

end CatalogLint

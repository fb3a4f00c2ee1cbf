/-
**Which string of an entry a quoted text belongs to.**

The reading of a block carries the string that is open from line to line.  Here the same is said
without a state: a text belongs to the keyword on its own line, or else to the nearest keyword above
it in the same entry.  Comments, flags and blank lines in between do not matter, and no keyword
reaches beyond the entry it stands in.

Main definitions:

* `CatalogLint.Catalog.ownLines` — the lines of an entry, by their numbers;
* `CatalogLint.Catalog.nearestKeyword`, `CatalogLint.Catalog.ownerAt` — the nearest keyword above a
  line, and the keyword that a line's text belongs to;
* `CatalogLint.Catalog.textsOf` — the texts that belong to some keywords, in the order of the lines;
* `CatalogLint.Catalog.DescribedBy` — what the lines of an entry say about it.

Main results:

* `CatalogLint.Catalog.strings_eq_textsFrom` — **the scan for the open string finds the nearest
  keyword**, whatever stands before the lines it is run on;
* `CatalogLint.Catalog.map_ofTrimmed_ownLines` — the lines of an entry are those of its block;
* `CatalogLint.Catalog.entries_describedBy` — **every entry is what its own lines say**.
-/

import CatalogLint.Proofs.Catalog.LineRange
import CatalogLint.Proofs.Text.Trim

set_option autoImplicit false

namespace CatalogLint.Catalog

/-! ### The owner of a text -/

/-- The keyword on the last of some lines that starts a string. -/
def nearestKeyword (before : List Text) : Option Text :=
  (before.filter startsString).getLast?.map keywordOf

/-- The keyword that the text on a line belongs to, the line being the one at position `i` among the
lines of an entry. -/
def ownerAt (own : List Text) (i : Nat) (line : Text) : Option Text :=
  if startsString line then some (keywordOf line)
  else if continuesString line then nearestKeyword (own.take i)
  else none

/-- The texts on the lines of an entry that belong to one of the keywords that `owns` accepts. -/
def textsOf (own : List Text) (owns : Text → Bool) : List Text :=
  own.zipIdx.filterMap fun (line, i) =>
    if (ownerAt own i line).any owns then some (unquoted (stringOf line)) else none

theorem nearestKeyword_append_of_startsString {line : Text} (before : List Text)
    (h : startsString line = true) :
    nearestKeyword (before ++ [line]) = some (keywordOf line) := by
  simp [nearestKeyword, h]

theorem nearestKeyword_append_of_not_startsString {line : Text} (before : List Text)
    (h : startsString line = false) :
    nearestKeyword (before ++ [line]) = nearestKeyword before := by
  simp [nearestKeyword, h]

/-- The string that is open after some lines. -/
def fieldAfter (before : List Text) : Field :=
  ((nearestKeyword before).bind Field.ofKeyword?).getD .unopened

/-- Whether the keyword opens the string. -/
def opens (field : Field) (keyword : Text) : Bool := Field.ofKeyword? keyword = some field

theorem fieldAfter_eq_iff (before : List Text) {field : Field} (h : field ≠ .unopened) :
    fieldAfter before = field ↔ (nearestKeyword before).any (opens field) = true := by
  cases hnearest : nearestKeyword before with
  | none => simp [fieldAfter, hnearest, Ne.symm h]
  | some keyword =>
      cases hfield : Field.ofKeyword? keyword with
      | none => simp [fieldAfter, hnearest, hfield, opens, Ne.symm h]
      | some found => simp [fieldAfter, hnearest, hfield, opens]

/-- The texts on some of the lines of an entry that belong to a string. -/
def textsFrom (own rest : List Text) (n : Nat) (field : Field) : List Text :=
  (rest.zipIdx n).filterMap fun (line, i) =>
    if (ownerAt own i line).any (opens field) then some (unquoted (stringOf line)) else none

/-- **The scan for the open string finds the nearest keyword.**  The lines before the ones that are
scanned come in through the string that they leave open, and through nothing else. -/
theorem strings_eq_textsFrom {field : Field} (hfield : field ≠ .unopened) (before rest : List Text)
    (htrim : ∀ line ∈ rest, Text.trimEnd line = line)
    (hgood : ∀ line ∈ rest, isMalformed line = false) :
    (((strings (fieldAfter before) (rest.map Line.ofTrimmed)).filter
      fun (owner, _) => owner = field).map fun (_, text) => text) =
        textsFrom (before ++ rest) rest before.length field := by
  induction rest generalizing before with
  | nil => rfl
  | cons line rest ih =>
      have hlater := ih (before ++ [line]) (fun other h => htrim other (List.mem_cons_of_mem _ h))
        (fun other h => hgood other (List.mem_cons_of_mem _ h))
      rw [List.append_assoc, List.singleton_append, List.length_append, List.length_singleton]
        at hlater
      have hline : isMalformed line = false := hgood line List.mem_cons_self
      rw [textsFrom, List.zipIdx_cons, List.filterMap_cons, ← textsFrom, ← hlater, List.map_cons]
      cases hstart : startsString line with
      | true =>
          -- the line's own keyword decides, and is the nearest one from here on
          obtain ⟨found, hfound, hread⟩ := ofTrimmed_keyword hline hstart
          have hafter : fieldAfter (before ++ [line]) = found := by
            simp [fieldAfter, nearestKeyword_append_of_startsString before hstart, hfound]
          rw [hread, strings, hafter]
          by_cases heq : found = field <;> simp [ownerAt, hstart, opens, hfound, heq]
      | false =>
          have hafter : fieldAfter (before ++ [line]) = fieldAfter before := by
            rw [fieldAfter, nearestKeyword_append_of_not_startsString before hstart, ← fieldAfter]
          rw [hafter]
          cases hcontinue : continuesString line with
          | true =>
              have howner := fieldAfter_eq_iff before hfield
              rw [ofTrimmed_string (htrim line List.mem_cons_self) hline hcontinue, strings]
              by_cases heq : fieldAfter before = field <;>
                simp_all [ownerAt]
          | false =>
              have howner : ownerAt (before ++ line :: rest) before.length line = none := by
                simp [ownerAt, hstart, hcontinue]
              rcases ofTrimmed_of_other hstart hcontinue with ⟨_, h⟩ | ⟨_, h⟩ | ⟨_, h⟩ | h <;>
                simp [h, howner, strings]

/-- The keyword of the source text. -/
def isSourceKeyword (keyword : Text) : Bool := keyword = "msgid"

/-- The keywords of the target text, with one form or with several. -/
def isTargetKeyword (keyword : Text) : Bool := keyword = "msgstr" || keyword = "msgstr[0]"

theorem opens_source : opens .source = isSourceKeyword := by
  funext keyword
  rw [Bool.eq_iff_iff, opens, isSourceKeyword, decide_eq_true_eq, decide_eq_true_eq]
  constructor
  · intro h
    rw [Field.ofKeyword?] at h
    split_ifs at h <;> first | assumption | cases h
  · rintro rfl
    rfl

theorem opens_target : opens .target = isTargetKeyword := by
  funext keyword
  rw [Bool.eq_iff_iff, opens, isTargetKeyword, decide_eq_true_eq]
  constructor
  · intro h
    rw [Field.ofKeyword?] at h
    split_ifs at h <;> first | assumption | cases h
  · intro h
    rcases Bool.or_eq_true_iff.1 h with h | h <;> rw [of_decide_eq_true h] <;> rfl

/-! ### The lines of an entry -/

/-- The lines of an entry, without the blanks at their ends: those with a number in its range. -/
def ownLines (lines : List Text) (entry : Entry) : List Text :=
  ((numbered lines).filter fun (_, number) => entry.hasLine number).map
    fun (line, _) => Text.trimEnd line

/-- The lines in the range of an entry, where the entry's lines stand together in the file. -/
theorem ownLines_of_split {entry : Entry} (before own after : List Text)
    (hfirst : entry.firstLine = 1 + before.length)
    (hlast : entry.lastLine + 1 = 1 + before.length + own.length) :
    ownLines (before ++ (own ++ after)) entry = own.map Text.trimEnd := by
  have hbefore : (before.zipIdx 1).filter (fun (_, number) => entry.hasLine number) = [] := by
    rw [List.filter_eq_nil_iff]
    rintro ⟨line, number⟩ hmem
    have : number < before.length + 1 := List.snd_lt_of_mem_zipIdx hmem
    rw [hasLine_iff]
    omega
  have hown : (own.zipIdx (1 + before.length)).filter (fun (_, number) => entry.hasLine number) =
      own.zipIdx (1 + before.length) := by
    rw [List.filter_eq_self]
    rintro ⟨line, number⟩ hmem
    have : 1 + before.length ≤ number := List.le_snd_of_mem_zipIdx hmem
    have : number < own.length + (1 + before.length) := List.snd_lt_of_mem_zipIdx hmem
    rw [hasLine_iff]
    omega
  have hafter : (after.zipIdx (1 + before.length + own.length)).filter
      (fun (_, number) => entry.hasLine number) = [] := by
    rw [List.filter_eq_nil_iff]
    rintro ⟨line, number⟩ hmem
    have : 1 + before.length + own.length ≤ number := List.le_snd_of_mem_zipIdx hmem
    rw [hasLine_iff]
    omega
  rw [ownLines, numbered, List.zipIdx_append, List.zipIdx_append, List.filter_append,
    List.filter_append, hbefore, hown, hafter, List.append_nil, List.nil_append]
  calc (own.zipIdx (1 + before.length)).map (fun (line, _) => Text.trimEnd line)
      = ((own.zipIdx (1 + before.length)).map Prod.fst).map Text.trimEnd := by
        rw [List.map_map]
        rfl
    _ = own.map Text.trimEnd := by rw [List.zipIdx_map_fst]

/-- The lines of an entry are the line that opens its block and the lines of the body, none of which
opens an entry. -/
theorem exists_ownLines_eq {lines : List Text} {block : Block}
    (h : block ∈ (blocks 1 (lines.map Line.ofText)).2) :
    ∃ opener body, ownLines lines block.entry = (opener :: body).map Text.trimEnd ∧
      Text.trimEnd opener = "#: ".toList ++ block.reference ∧
      block.body = body.map Line.ofText ∧ (∀ line ∈ body, opensEntry line = false) ∧
      ∀ line ∈ opener :: body, line ∈ lines := by
  obtain ⟨before, opener, body, after, rfl, hfirst, hopener, hbody, hplain⟩ :=
    standsIn_of_mem_blocks h
  refine ⟨opener, body, ?_, hopener, hbody, hplain, fun line hline => ?_⟩
  · have hlast : block.entry.lastLine = block.firstLine + body.length := by
      rw [Block.entry, hbody, List.length_map]
    refine ownLines_of_split before (opener :: body) after hfirst ?_
    rw [hlast, hfirst, List.length_cons]
    omega
  · rw [← List.cons_append]
    exact List.mem_append_right before (List.mem_append_left after hline)

/-- **The lines of an entry are those of its block**: the reference comment, and the body. -/
theorem map_ofTrimmed_ownLines {lines : List Text} {block : Block}
    (h : block ∈ (blocks 1 (lines.map Line.ofText)).2) :
    ∃ body, ownLines lines block.entry = ("#: ".toList ++ block.reference) :: body ∧
      (∀ line ∈ ownLines lines block.entry, Text.trimEnd line = line) ∧
      (ownLines lines block.entry).map Line.ofTrimmed =
        .reference block.reference :: block.body := by
  obtain ⟨opener, body, hown, hopener, hbody, -, -⟩ := exists_ownLines_eq h
  refine ⟨body.map Text.trimEnd, ?_, ?_, ?_⟩
  · rw [hown, List.map_cons, hopener]
  · rw [hown]
    intro line hline
    obtain ⟨raw, -, rfl⟩ := List.mem_map.1 hline
    exact Text.trimEnd_trimEnd raw
  · rw [hown, List.map_map, List.map_cons, hbody]
    congr 1
    exact ofText_eq_reference_iff.2 hopener

/-- What the lines of an entry say about it. -/
structure DescribedBy (own : List Text) (entry : Entry) : Prop where
  /-- The first line gives the reference. -/
  reference : own.head? = some ("#: ".toList ++ entry.reference)
  /-- The strings on the lines are well quoted, so that what stands between the quotes is said. -/
  quoted : ∀ line ∈ own, startsString line = true ∨ continuesString line = true →
    isQuoted (stringOf line) = true
  /-- The source text is made of the texts that belong to its keyword. -/
  source : entry.source = textsOf own isSourceKeyword
  /-- The target text is made of the texts that belong to one of its keywords. -/
  target : entry.target = textsOf own isTargetKeyword
  /-- The target text is unsure exactly if a line of flags has that flag. -/
  fuzzy : entry.fuzzy = true ↔ ∃ line ∈ own, ∃ list, line = "#,".toList ++ list ∧
    ∃ flag ∈ Text.splitOn ',' list, Text.trim flag = "fuzzy"
  /-- The comments are the empty ones and those after a hash and a blank. -/
  comments : entry.comments =
    own.filterMap fun (line : Text) => if line = "#" then some [] else Text.dropStart? "# " line

/-- The texts of a string in a block are those of its keywords in the entry's lines. -/
theorem segments_eq_textsOf {own : List Text} {block : Block} {field : Field}
    (hfield : field ≠ .unopened)
    (hread : own.map Line.ofTrimmed = .reference block.reference :: block.body)
    (htrim : ∀ line ∈ own, Text.trimEnd line = line)
    (hgood : ∀ line ∈ own, isMalformed line = false) :
    block.segments field = textsOf own (opens field) := by
  have h := strings_eq_textsFrom hfield [] own htrim hgood
  rw [hread] at h
  exact h

/-- **Every entry is what its own lines say.** -/
theorem entries_describedBy {path : Path} {content : Text} {catalog : Catalog}
    (h : parse path content = .ok catalog) :
    ∀ entry ∈ catalog.plainEntries, DescribedBy (ownLines (contentLines content) entry) entry := by
  obtain ⟨hfault, -, hentries⟩ := parse_eq_ok h
  intro entry hentry
  rw [hentries] at hentry
  obtain ⟨block, hblock, rfl⟩ := List.mem_map.1 hentry
  obtain ⟨body, hown, htrim, hread⟩ := map_ofTrimmed_ownLines hblock
  have hgood : ∀ line ∈ ownLines (contentLines content) block.entry, isMalformed line = false := by
    intro line hline
    have hmem : Line.ofTrimmed line ∈ Line.reference block.reference :: block.body := by
      rw [← hread]
      exact List.mem_map_of_mem hline
    have hnone : (Line.ofTrimmed line).fault? = none := by
      rcases List.mem_cons.1 hmem with heq | hmem
      · rw [heq]
        rfl
      · exact fault?_of_mem_blocksOf hfault hblock _ hmem
    rw [fault?_ofTrimmed (htrim line hline)] at hnone
    simpa using hnone
  have hfuzzy : block.entry.fuzzy =
      (ownLines (contentLines content) block.entry).any (Line.marksFuzzy ∘ Line.ofTrimmed) := by
    rw [← List.any_map, hread]
    rfl
  have hcomments : block.entry.comments =
      (ownLines (contentLines content) block.entry).filterMap (Line.comment? ∘ Line.ofTrimmed) := by
    rw [← List.filterMap_map, hread]
    rfl
  exact {
    reference := by
      rw [hown]
      rfl
    quoted := fun line hline => isQuoted_stringOf (hgood line hline)
    source := by
      rw [← opens_source]
      exact segments_eq_textsOf (by decide) hread htrim hgood
    target := by
      rw [← opens_target]
      exact segments_eq_textsOf (by decide) hread htrim hgood
    fuzzy := by
      simp only [hfuzzy, List.any_eq_true, Function.comp_apply, marksFuzzy_ofTrimmed]
    comments := by
      rw [hcomments]
      exact List.filterMap_congr fun line _ => comment?_ofTrimmed line }

/-- An entry with a stray string, a context, a plural and comments between its strings. -/
def pluralContent : Text :=
  "#: a.rst:1\n\"stray\"\n#, python-format, fuzzy\nmsgctxt \"menu\"\n\"bar\"\n" ++
    "msgid \"one \"\n# note\n#\n\"file\"\nmsgid_plural \"files\"\n\"!\"\n" ++
    "msgstr[0] \"un \"\n\n\"fichier\"\nmsgstr[1] \"x\"\n\"y\"\n"

def pluralEntry : Entry where
  reference := "a.rst:1"
  firstLine := 1
  lastLine := 16
  source := ["one ", "file"]
  target := ["un ", "fichier"]
  fuzzy := true
  comments := ["note", ""]

theorem entries_describedBy_plural :
    parse ⟨"a.po"⟩ pluralContent = .ok ⟨⟨"a.po"⟩, [{ entry := pluralEntry }]⟩ ∧
      DescribedBy (ownLines (contentLines pluralContent) pluralEntry) pluralEntry := by
  have h : parse ⟨"a.po"⟩ pluralContent = .ok ⟨⟨"a.po"⟩, [{ entry := pluralEntry }]⟩ := by rfl
  exact ⟨h, entries_describedBy h pluralEntry (List.mem_singleton.2 rfl)⟩

end CatalogLint.Catalog

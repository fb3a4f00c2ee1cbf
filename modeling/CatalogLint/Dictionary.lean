/-
Personal dictionaries: words that the spelling check has to accept.

A word is accepted as it was told, without the blanks around it, and in title case.  Words are also
told by files and by addresses on the net, where whatever gets the text at an address is handed to
the dictionary.

* `CatalogLint.Dictionary` — the accepted forms;
* `CatalogLint.Dictionary.insert`, `CatalogLint.Dictionary.insertAll` — a dictionary with more
  words;
* `CatalogLint.Dictionary.contains`, `CatalogLint.Dictionary.size` — whether a word is accepted, and
  how many forms are;
* `CatalogLint.Dictionary.load` — the dictionary made of sources with a word on each line, and of
  further words.

Main statement: `mem_forms_insert`, which forms a word adds.
-/

import CatalogLint.Files
import CatalogLint.Text.Class
import CatalogLint.Text.Case
import CatalogLint.Text.Lines

set_option autoImplicit false

namespace CatalogLint

/-- The accepted forms, each once. -/
structure Dictionary where
  forms : List Text := []
deriving DecidableEq, Repr

namespace Dictionary

def insertForm (dictionary : Dictionary) (form : Text) : Dictionary :=
  if dictionary.forms.contains form then dictionary else ⟨form :: dictionary.forms⟩

theorem mem_forms_insertForm {dictionary : Dictionary} {form other : Text} :
    other ∈ (dictionary.insertForm form).forms ↔ other = form ∨ other ∈ dictionary.forms := by
  unfold insertForm
  split
  · next h =>
    constructor
    · exact .inr
    · rintro (rfl | h')
      · simpa using h
      · exact h'
  · simp

/-- The dictionary with one more word; nothing but blanks is no word. -/
def insert (dictionary : Dictionary) (word : Text) : Dictionary :=
  let word := Text.trim word
  if word.isEmpty then dictionary
  else (dictionary.insertForm (Text.titleCase word)).insertForm word

/-- A word adds itself, without the blanks around it, and its title case. -/
theorem mem_forms_insert {dictionary : Dictionary} {word form : Text} :
    form ∈ (dictionary.insert word).forms ↔
      (Text.trim word ≠ [] ∧ (form = Text.trim word ∨ form = Text.titleCase (Text.trim word))) ∨
        form ∈ dictionary.forms := by
  by_cases h : Text.trim word = []
  · simp [insert, h]
  · simp [insert, h, mem_forms_insertForm, or_assoc]

def insertAll (dictionary : Dictionary) (words : List Text) : Dictionary :=
  words.foldl insert dictionary

/-- Whether the word is accepted.  Blanks around it make no difference, its case does. -/
def contains (dictionary : Dictionary) (word : Text) : Bool :=
  dictionary.forms.contains (Text.trim word)

theorem contains_iff {dictionary : Dictionary} {word : Text} :
    dictionary.contains word = true ↔ Text.trim word ∈ dictionary.forms := by
  simp [contains]

def size (dictionary : Dictionary) : Nat := dictionary.forms.length

def isEmpty (dictionary : Dictionary) : Bool := dictionary.forms.isEmpty

/-- Why a dictionary cannot be made: one of its sources cannot be read. -/
inductive Error where
  | io (path : Path) (error : IoError)
  /-- The text at an address cannot be had, for a reason in the words of what gets it. -/
  | http (address reason : Text)
deriving DecidableEq, Repr

def Error.reason : Error → Text
  | io _ error => error.message
  | http _ reason => reason

def Error.message (error : Error) : Text :=
  (match error with
    | io path _ => "failed to read personal dictionary " ++ path.quoted
    | http address _ => "failed to download personal dictionary " ++ address) ++
    ": " ++ error.reason

/-- What gets the text at an address, or the reason why it cannot be had. -/
abbrev Fetch : Type := (address : Text) → Except Text Text

/-- Whether a source is an address and not the path of a file. -/
def isAddress (source : Text) : Bool := source.startsWith "http://" || source.startsWith "https://"

section
variable (fetch : Fetch) (files : Files)

/-- The text of a source. -/
def sourceText (source : Text) : Except Error Text :=
  if isAddress source then (fetch source).mapError (.http source)
  else (files.readText ⟨source⟩).mapError (.io ⟨source⟩)

/-- The words of a source, one on each line. -/
def readSource (source : Text) : Except Error (List Text) :=
  (sourceText fetch files source).map Text.lines

/-- The dictionary made of the words of some sources and of further words. -/
def load (sources words : List Text) : Except Error Dictionary := do
  let lines ← sources.mapM (readSource fetch files)
  .ok (({} : Dictionary).insertAll (lines.flatten ++ words))

end

end Dictionary

end CatalogLint

import MudClient.Proofs.Reference.Glossary
import MudClient.Proofs.Reference.Mark

/-!
# Looking names up behind marks

* `lookups`: the settings of signs, which look names up and keep no record
* `Sign.passed`, `Sign.cascade`, `cascade`: passes and cascades as functions of the text
* `Sign.glossary`, `gives_cascade`: a sign as a glossary, so that the settings of signs carry out these functions
* `Vocabulary`: signs of different characters with values that refer to nothing
-/

set_option autoImplicit false

namespace MudClient.Reference

open Pattern

variable {World : Type} {signs : List Sign} {sign : Sign} {k : NameClass} {p s t : Text}

/-! ## Settings of signs -/

def Sign.setting (sign : Sign) : Setting World := .pure [sign.char] sign.lookup

/-- A context of signs that keeps no record. -/
def lookups (signs : List Sign) : Context World := signs.map Sign.setting

theorem sigilsOf_lookups (signs : List Sign) : SigilsOf signs (lookups signs : Context World).sigils := by
  intro sigil
  rw [mem_sigils]
  constructor
  · rintro ⟨setting, hs, rfl⟩
    obtain ⟨sign, hsign, rfl⟩ := List.mem_map.1 hs
    exact ⟨sign, hsign, rfl⟩
  · rintro ⟨sign, hsign, rfl⟩
    exact ⟨sign.setting, List.mem_map.2 ⟨sign, hsign, rfl⟩, rfl⟩

theorem mayRefer_lookups (hs : sign ∈ signs) (hc : sign.char ∈ t) :
    (lookups signs : Context World).mayRefer t :=
  (mayRefer_iff (sigilsOf_lookups signs).marks).2
    ⟨sign.char, hc, (sigilsOf_lookups signs _).2 ⟨sign, hs, rfl⟩⟩

theorem mayRefer_lookups_of_free (h : ∀ sign ∈ signs, sign.char ∉ t) :
    (lookups signs : Context World).mayRefer t = false :=
  mayRefer_of_free (sigilsOf_lookups signs).marks ((sigilsOf_lookups signs).free_iff.2 h)

/-- What a piece of a text becomes. -/
def Sign.filled (sign : Sign) : Piece Text → Text
  | .char c => [c]
  | .item name => (sign.lookup name).getD (sign.char :: name)

theorem Sign.filled_eq (sign : Sign) : Reference.filled [sign.char] sign.lookup = sign.filled := by
  funext piece
  cases piece <;> rfl

/-- A text with the references to names of a class replaced that have a value. -/
def Sign.passed (sign : Sign) (t : Text) (k : NameClass) : Text :=
  (references [sign.char] k t).flatMap sign.filled

/-- A text after the passes of one sign. -/
def Sign.cascade (sign : Sign) (t : Text) : Text :=
  [NameClass.dotted, .hyphened, .alphanumeric].foldl sign.passed t

/-- A text after the passes of all signs. -/
def cascade (signs : List Sign) (t : Text) : Text :=
  signs.foldl (fun t sign => sign.cascade t) t

theorem filled_chars (sign : Sign) (t : Text) : (Piece.chars t).flatMap sign.filled = t := by
  rw [← sign.filled_eq, flatMap_filled_chars]

theorem Sign.passed_lead (h : sign.char ∉ p) : sign.passed (p ++ t) k = p ++ sign.passed t k := by
  rw [passed, references_lead h, List.flatMap_append, filled_chars]
  rfl

theorem Sign.passed_append (hs : ∀ d ∈ s.head?, isNameChar d = false) :
    sign.passed (t ++ s) k = sign.passed t k ++ sign.passed s k := by
  rw [passed, references_append hs, List.flatMap_append]
  rfl

theorem Sign.passed_of_notMem (h : sign.char ∉ t) : sign.passed t k = t := by
  rw [passed, references_of_notMem h, filled_chars]

theorem Sign.foldl_passed_of_notMem (h : sign.char ∉ t) (classes : List NameClass) :
    classes.foldl sign.passed t = t := by
  induction classes with
  | nil => rfl
  | cons k classes ih => rw [List.foldl_cons, passed_of_notMem h, ih]

theorem cascade_of_free (h : ∀ sign ∈ signs, sign.char ∉ t) : cascade signs t = t := by
  induction signs with
  | nil => rfl
  | cons sign signs ih =>
    rw [cascade, List.foldl_cons, Sign.cascade, Sign.foldl_passed_of_notMem (h sign List.mem_cons_self)]
    exact ih fun s hs => h s (List.mem_cons_of_mem _ hs)

/-- A sign as a glossary. -/
def Sign.glossary (sign : Sign) : Glossary := ⟨[sign.char], sign.lookup⟩

theorem Sign.cascade_glossary (sign : Sign) (t : Text) : sign.glossary.cascade t = sign.cascade t := by
  have hpassed : sign.glossary.passed = sign.passed := by
    funext t k
    rw [passed, ← sign.filled_eq]
    rfl
  rw [cascade, ← hpassed]
  rfl

theorem gives_cascade (signs : List Sign) (t : Text) :
    Gives (simplifyAll (lookups signs : Context World) t) (.ok (cascade signs t)) := by
  have hcontext : (glossed (signs.map Sign.glossary) : Context World) = lookups signs := by
    rw [glossed, List.map_map]
    rfl
  have hcascade : cascadeAll (signs.map Sign.glossary) t = cascade signs t := by
    simp only [cascadeAll, List.foldl_map, Sign.cascade_glossary]
    rfl
  rw [← hcontext, ← hcascade]
  exact gives_simplifyAll _ t

theorem gives_settle_of_free (h : ∀ sign ∈ signs, sign.char ∉ t) (n : Nat) :
    Gives (settle (lookups signs : Context World) n t) (.ok t) := by
  cases n with
  | zero => exact gives_pure t
  | succ n =>
    rw [settle, mayRefer_lookups_of_free h]
    exact gives_pure t

/-! ## Vocabularies -/

/-- Signs of different characters, with values in which none of these characters stands. -/
structure Vocabulary where
  signs : List Sign
  distinct : (signs.map Sign.char).Nodup
  closed : ∀ sign ∈ signs, ∀ name, ∀ value ∈ sign.lookup name, ∀ other ∈ signs, other.char ∉ value

/-- The same signs in another order. -/
def Vocabulary.reorder (V : Vocabulary) (order : List Sign) (h : order.Perm V.signs) : Vocabulary where
  signs := order
  distinct := ((h.map Sign.char).nodup_iff).2 V.distinct
  closed sign hsign name value hvalue other hother :=
    V.closed sign (h.mem_iff.1 hsign) name value hvalue other (h.mem_iff.1 hother)

/-- A sign with a list of directions. -/
def directions : Sign where
  char := '$'
  lookup name := if name = ['w', 'a', 'y'] then some ['n', '|', 's', '|', 'e'] else none
  isMark := isMark_dollar

/-- A sign with places in that list. -/
def steps : Sign where
  char := '@'
  lookup name := if name = ['a', '.', 'b'] then some ['2', '|', '0'] else none
  isMark := ⟨by decide, by decide⟩

theorem lookup_compass {name value : Text} (h : sign ∈ [directions, steps])
    (hv : sign.lookup name = some value) :
    value = ['n', '|', 's', '|', 'e'] ∨ value = ['2', '|', '0'] := by
  simp only [List.mem_cons, List.not_mem_nil, or_false] at h
  rcases h with rfl | rfl
  · have hvalue : name = ['w', 'a', 'y'] ∧ ['n', '|', 's', '|', 'e'] = value := by
      simpa [directions] using hv
    exact .inl hvalue.2.symm
  · have hvalue : name = ['a', '.', 'b'] ∧ ['2', '|', '0'] = value := by simpa [steps] using hv
    exact .inr hvalue.2.symm

def compass : Vocabulary where
  signs := [directions, steps]
  distinct := by decide
  closed := by
    intro sign hsign name value hvalue
    rcases lookup_compass hsign hvalue with rfl | rfl <;> decide

end MudClient.Reference

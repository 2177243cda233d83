import MudClient.Markup.Event
import MudClient.Text.Blank

/-!
# Attribute values

* `isGap`: the four characters that separate the parts of a tag
* `endsTag`, `closesValue`: what has to follow a delimiter for it to close a value
* `closeQuoted`: a quoted value up to its closing delimiter
* `recoverQuoted`: the same value up to the delimiter right before the end of its tag
* `readValue`: any value, and the text after it
* `suffix_of_closeQuoted` to `suffix_of_readValue`: that text is the end of the one that was given

A quoted value may hold the other quote, an escaped delimiter, and even the bare delimiter, as long as
nothing that may follow a value stands behind it.
-/

set_option autoImplicit false

namespace MudClient.Markup

/-- Space, tab, carriage return and line feed separate the parts of a tag. -/
def isGap (c : Char) : Bool :=
  c = ' ' || c = '\t' || c = '\r' || c = '\n'

def isQuote (c : Char) : Bool :=
  c = '"' || c = '\''

/-- Blanks, then the end of a tag. -/
def endsTag (rest : Text) : Bool :=
  match rest.dropBlank with
  | '>' :: _ => true
  | '/' :: '>' :: _ => true
  | _ => false

def isFurtherKeyChar (c : Char) : Bool :=
  !(Text.isBlank c || c = '=' || c = '/' || c = '>' || c = '"' || c = '\'' || c = '<')

/-- At least one blank, a further attribute name, blanks, and an equals sign. -/
def startsAttribute (rest : Text) : Bool :=
  match rest with
  | [] => false
  | c :: _ =>
    let key := rest.dropBlank
    Text.isBlank c && !(key.takeWhile isFurtherKeyChar).isEmpty &&
      (Text.dropBlank (key.dropWhile isFurtherKeyChar)).head? == some '='

/-- A delimiter closes a value when the end of the tag, the end of the line or a further attribute
follows it. -/
def closesValue (rest : Text) : Bool :=
  endsTag rest || rest.allBlank || startsAttribute rest

/-- A delimiter after a backslash stands for itself; the backslash goes. -/
def unescape (quote : Char) : Text → Text
  | [] => []
  | [c] => [c]
  | c :: d :: rest =>
    if c = '\\' ∧ d = quote then quote :: unescape quote rest else c :: unescape quote (d :: rest)

/-- The value up to the first delimiter that is not escaped and closes, and what follows it. -/
def closeQuoted (quote : Char) : Text → Option (Text × Text)
  | [] => none
  | [c] => if c = quote then some ([], []) else none
  | c :: d :: rest =>
    if c = '\\' ∧ d = quote then
      (closeQuoted quote rest).map fun p => (quote :: p.1, p.2)
    else if c = quote ∧ closesValue (d :: rest) then some ([], d :: rest)
    else (closeQuoted quote (d :: rest)).map fun p => (c :: p.1, p.2)

/-- What stands before the first delimiter that the end of a tag follows, and what stands after it. -/
def recoverQuoted (quote : Char) : Text → Option (Text × Text)
  | [] => none
  | c :: rest =>
    if c = quote ∧ endsTag rest then some ([], rest)
    else (recoverQuoted quote rest).map fun p => (c :: p.1, p.2)

/-- A value without quotes goes on to a gap or the end of its tag. -/
def bareValue : Text → Text × Text
  | [] => ([], [])
  | c :: rest =>
    if isGap c || c = '>' || (c = '/' && rest.head? == some '>') then ([], c :: rest)
    else ((c :: (bareValue rest).1), (bareValue rest).2)

structure ValueReading where
  value : Text
  rest : Text
  notices : List Notice

/-- The value that ends at the delimiter right before the end of its tag. -/
def recoverValue (quote : Char) (body : Text) : Option ValueReading :=
  (recoverQuoted quote body).map fun p =>
    ⟨unescape quote p.1, p.2, [.unbalancedQuotes (quote :: p.1 ++ [quote])]⟩

def readQuoted (quote : Char) (body : Text) : Option ValueReading :=
  match closeQuoted quote body with
  | some (value, rest) => some ⟨value, rest, []⟩
  | none => recoverValue quote body

/-- The value at the front of a text; none when a quoted value never ends. -/
def readValue (t : Text) : Option ValueReading :=
  match t with
  | [] => some ⟨[], [], []⟩
  | c :: body =>
    if isQuote c then readQuoted c body
    else some ⟨(bareValue (c :: body)).1, (bareValue (c :: body)).2, []⟩

/-! ## What is left is the end of the text -/

variable {quote : Char} {t rest value : Text}

theorem suffix_of_closeQuoted (h : closeQuoted quote t = some (value, rest)) : rest <:+ t := by
  fun_induction closeQuoted quote t generalizing value with
  | case1 => simp at h
  | case2 =>
    simp only [Option.some.injEq, Prod.mk.injEq] at h
    exact h.2 ▸ List.nil_suffix
  | case3 => simp at h
  | case4 c d t hc ih =>
    obtain ⟨⟨v, r⟩, hp, he⟩ := Option.map_eq_some_iff.1 h
    simp only [Prod.mk.injEq] at he
    exact (ih (he.2 ▸ hp)).trans ((List.suffix_cons _ _).trans (List.suffix_cons _ _))
  | case5 c d t hc hq =>
    simp only [Option.some.injEq, Prod.mk.injEq] at h
    exact h.2 ▸ List.suffix_cons _ _
  | case6 c d t hc hq ih =>
    obtain ⟨⟨v, r⟩, hp, he⟩ := Option.map_eq_some_iff.1 h
    simp only [Prod.mk.injEq] at he
    exact (ih (he.2 ▸ hp)).trans (List.suffix_cons _ _)

theorem suffix_of_recoverQuoted (h : recoverQuoted quote t = some (value, rest)) : rest <:+ t := by
  induction t generalizing value with
  | nil => simp [recoverQuoted] at h
  | cons c t ih =>
    simp only [recoverQuoted] at h
    split at h
    · simp only [Option.some.injEq, Prod.mk.injEq] at h
      exact h.2 ▸ List.suffix_cons _ _
    · obtain ⟨⟨v, r⟩, hp, he⟩ := Option.map_eq_some_iff.1 h
      simp only [Prod.mk.injEq] at he
      exact (ih (he.2 ▸ hp)).trans (List.suffix_cons _ _)

theorem bareValue_suffix (t : Text) : (bareValue t).2 <:+ t := by
  induction t with
  | nil => exact List.suffix_refl _
  | cons c t ih =>
    simp only [bareValue]
    split
    · exact List.suffix_refl _
    · exact ih.trans (List.suffix_cons _ _)

theorem suffix_of_readValue {r : ValueReading} (h : readValue t = some r) : r.rest <:+ t := by
  cases t with
  | nil =>
    simp only [readValue, Option.some.injEq] at h
    exact h ▸ List.suffix_refl _
  | cons c body =>
    simp only [readValue] at h
    split at h
    · simp only [readQuoted, recoverValue] at h
      split at h
      · next v r' hc =>
        simp only [Option.some.injEq] at h
        exact h ▸ (suffix_of_closeQuoted hc).trans (List.suffix_cons _ _)
      · obtain ⟨⟨v, r'⟩, hp, he⟩ := Option.map_eq_some_iff.1 h
        exact he ▸ (suffix_of_recoverQuoted hp).trans (List.suffix_cons _ _)
    · simp only [Option.some.injEq] at h
      exact h ▸ bareValue_suffix (c :: body)

end MudClient.Markup

import Mathlib.Data.List.Forall2
import Mathlib.Logic.Function.Iterate
import MudClient.Proofs.Reference.Form
import MudClient.Proofs.Reference.Occurrence

/-!
# Settings that look names up

* `Gives`: what a computation comes to, whichever patterns a faithful cache holds
* `Glossary`, `glossed`: a sigil with the values of the names behind it, and the settings of such sigils
* `Glossary.passed`, `Glossary.cascade`, `cascadeAll`: passes and cascades as functions of the text
* `gives_simplifyAll`, `gives_settle`: these settings carry out these functions
-/

set_option autoImplicit false

namespace MudClient.Reference

open Pattern

variable {World α β : Type} {sigil t : Text} {k : NameClass} {lookup : Text → Option Text}

/-! ## Results -/

/-- From a faithful cache the computation comes to this result. It changes nothing but the cache, which stays
faithful. -/
def Gives (m : Expansion World α) (result : Except ExpandError α) : Prop :=
  ∀ ledger, ledger.cache.Faithful →
    ∃ cache, cache.Faithful ∧ m.run.run ledger = (result, { ledger with cache := cache })

section

variable {m : Expansion World α} {f : α → Expansion World β} {a : α} {e : ExpandError}
  {result : Except ExpandError β}

theorem gives_pure (a : α) : Gives (pure a : Expansion World α) (.ok a) :=
  fun ledger h => ⟨ledger.cache, h, rfl⟩

theorem gives_liftExcept (result : Except ExpandError Text) :
    Gives (expandIndexed.liftExcept result : Expansion World Text) result :=
  fun ledger h => ⟨ledger.cache, h, run_liftExcept result ledger⟩

theorem gives_bind (hm : Gives m (.ok a)) (hf : Gives (f a) result) : Gives (m >>= f) result := by
  intro ledger h
  obtain ⟨cache, h', hrun⟩ := hm ledger h
  obtain ⟨cache', h'', hrun'⟩ := hf { ledger with cache := cache } h'
  exact ⟨cache', h'', by rw [run_bind, hrun]; exact hrun'⟩

theorem gives_bind_error (hm : Gives m (.error e)) : Gives (m >>= f) (.error e) := by
  intro ledger h
  obtain ⟨cache, h', hrun⟩ := hm ledger h
  exact ⟨cache, h', by rw [run_bind, hrun]⟩

theorem gives_mapM {l : List α} {bs : List β} (h : List.Forall₂ (fun a b => Gives (f a) (.ok b)) l bs) :
    Gives (l.mapM f) (.ok bs) := by
  induction h with
  | nil => exact gives_pure []
  | cons hb _ ih =>
    rw [List.mapM_cons]
    exact gives_bind hb (gives_bind ih (gives_pure _))

end

/-! ## Glossaries -/

/-- A sigil, and the values of the names behind it. -/
structure Glossary where
  sigil : Text
  lookup : Text → Option Text

namespace Glossary

def setting (g : Glossary) : Setting World := .pure g.sigil g.lookup

/-- A text with the references to names of a class replaced that have a value. -/
def passed (g : Glossary) (t : Text) (k : NameClass) : Text :=
  (references g.sigil k t).flatMap (filled g.sigil g.lookup)

/-- A text after the passes of one glossary. -/
def cascade (g : Glossary) (t : Text) : Text :=
  [NameClass.dotted, .hyphened, .alphanumeric].foldl g.passed t

end Glossary

/-- A context that looks names up in glossaries, in this order. -/
def glossed (gs : List Glossary) : Context World := gs.map Glossary.setting

/-- A text after the passes of all glossaries. -/
def cascadeAll (gs : List Glossary) (t : Text) : Text :=
  gs.foldl (fun t g => g.cascade t) t

variable {g : Glossary} {gs : List Glossary}

theorem mayRefer_glossed : (glossed gs : Context World).mayRefer t ↔ ∃ g ∈ gs, g.sigil.occursIn t := by
  simp [Context.mayRefer, Context.sigils, glossed, Glossary.setting, Setting.pure]

/-! ## Texts without sigils -/

theorem references_of_not_occursIn (h : ¬sigil.occursIn t) : references sigil k t = Piece.chars t := by
  rw [Text.occursIn_iff] at h
  fun_induction references sigil k t with
  | case1 => rfl
  | case2 c t name rest hname hlt ih =>
    have hinfix : sigil <:+: sigil ++ (name ++ rest) := List.infix_append' [] sigil (name ++ rest)
    exact absurd ((nameAt?_eq_some.1 hname).1 ▸ hinfix) h
  | case3 c t hname ih => exact congrArg (.char c :: ·) (ih fun hinfix => h (List.infix_cons hinfix))

theorem flatMap_filled_chars (sigil : Text) (lookup : Text → Option Text) (t : Text) :
    (Piece.chars t).flatMap (filled sigil lookup) = t := by
  induction t with
  | nil => rfl
  | cons c t ih => exact congrArg (c :: ·) ih

theorem Glossary.passed_of_not_occursIn (h : ¬g.sigil.occursIn t) : g.passed t k = t := by
  rw [passed, references_of_not_occursIn h, flatMap_filled_chars]

theorem Glossary.cascade_of_not_occursIn (h : ¬g.sigil.occursIn t) : g.cascade t = t := by
  simp only [cascade, List.foldl_cons, List.foldl_nil, passed_of_not_occursIn h]

theorem cascadeAll_of_not_occursIn (h : ∀ g ∈ gs, ¬g.sigil.occursIn t) : cascadeAll gs t = t := by
  induction gs with
  | nil => rfl
  | cons g gs ih =>
    rw [cascadeAll, List.foldl_cons, Glossary.cascade_of_not_occursIn (h g List.mem_cons_self)]
    exact ih fun g hg => h g (List.mem_cons_of_mem _ hg)

/-! ## The cascade -/

theorem gives_ask (g : Glossary) (name : Text) :
    Gives ((g.setting : Setting World).ask name) (.ok (g.lookup name)) :=
  fun ledger h => ⟨ledger.cache, h, rfl⟩

theorem gives_rewrite (g : Glossary) (pieces : List (Piece Text)) :
    Gives (rewrite (g.setting : Setting World) pieces) (.ok (pieces.flatMap (filled g.sigil g.lookup))) := by
  induction pieces with
  | nil => exact gives_pure []
  | cons piece pieces ih =>
    cases piece with
    | char c => exact gives_bind ih (gives_pure _)
    | item name => exact gives_bind ih (gives_bind (gives_ask g name) (gives_pure _))

theorem gives_pass (g : Glossary) (t : Text) (k : NameClass) :
    Gives (pass (g.setting : Setting World) t k.source) (.ok (g.passed t k)) := by
  intro ledger h
  obtain ⟨cache, h', hrun⟩ := gives_rewrite g (references g.sigil k t)
    { ledger with cache := (ledger.cache.read (referencePattern g.sigil k.source) 0).2 } (h.read _ _)
  exact ⟨cache, h', (run_pass g.setting k t h).trans hrun⟩

theorem gives_simplify (g : Glossary) (t : Text) :
    Gives (simplify (g.setting : Setting World) t) (.ok (g.cascade t)) := by
  rw [simplify_passes]
  split
  · exact gives_bind (gives_pass g _ _) (gives_bind (gives_pass g _ _) (gives_pass g _ _))
  · next h =>
    rw [Glossary.cascade_of_not_occursIn h]
    exact gives_pure t

theorem gives_simplifyAll (gs : List Glossary) (t : Text) :
    Gives (simplifyAll (glossed gs : Context World) t) (.ok (cascadeAll gs t)) := by
  rw [simplifyAll]
  induction gs generalizing t with
  | nil => exact gives_pure t
  | cons g gs ih => exact gives_bind (gives_simplify g t) (ih (g.cascade t))

/-- A text without a sigil, and one that a cascade does not change, would not change in further ones either. -/
theorem gives_settle (gs : List Glossary) (n : Nat) (t : Text) :
    Gives (settle (glossed gs : Context World) n t) (.ok ((cascadeAll gs)^[n] t)) := by
  induction n generalizing t with
  | zero => exact gives_pure t
  | succ n ih =>
    rw [settle]
    split
    · next hnone =>
      have hfree : ∀ g ∈ gs, ¬g.sigil.occursIn t :=
        fun g hg h => by simp [mayRefer_glossed.2 ⟨g, hg, h⟩] at hnone
      rw [Function.iterate_fixed (cascadeAll_of_not_occursIn hfree)]
      exact gives_pure t
    · refine gives_bind (gives_simplifyAll gs t) ?_
      rw [Function.iterate_succ_apply]
      split
      · next hsame =>
        rw [hsame, Function.iterate_fixed hsame]
        exact gives_pure t
      · exact ih (cascadeAll gs t)

end MudClient.Reference

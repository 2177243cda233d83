import MudClient.Proofs.Reference.Form

/-!
# Expansions that are watched

* `Visit`, `Watched`: one call of the cascade, and computations that note every such call
* `watch`: the cascade for one setting, with a note of it
* `watchExpand`, `watchIndexed`: the expansion, going over a text as it does, with the watched cascade
* `Follows`: a watched computation that does what a computation does, while an invariant of the cache and
  the notes is kept
* `follows_expand`, `follows_expandIndexed`: the watched expansion does what the expansion does
-/

set_option autoImplicit false

namespace MudClient.Reference

open Pattern (Cache)

variable {World α β : Type}

/-! ## Watched computations -/

/-- A text that the cascade for a sigil is run over. -/
structure Visit where
  sigil : Text
  target : Text
deriving DecidableEq, Repr

/-- A computation that also notes where the cascade is run, oldest note first. -/
abbrev Watched (World : Type) := ExceptT ExpandError (StateM (Ledger World × List Visit))

/-- A computation of which nothing is noted. -/
def unnoted (x : Expansion World α) : Watched World α :=
  fun (ledger, visits) =>
    let (result, ledger) := x.run.run ledger
    (result, ledger, visits)

def watch (setting : Setting World) (t : Text) : Watched World Text := do
  modify fun (ledger, visits) => (ledger, visits ++ [⟨setting.sigil, t⟩])
  unnoted (simplify setting t)

/-! ## The expansion with the watched cascade -/

def watchAll (ctx : Context World) (t : Text) : Watched World Text :=
  ctx.foldlM (fun t setting => watch setting t) t

def watchSettle (ctx : Context World) : Nat → Text → Watched World Text
  | 0, t => return t
  | n + 1, t =>
    if !ctx.mayRefer t then return t
    else do
      let t' ← watchAll ctx t
      if t' = t then return t' else watchSettle ctx n t'

def watchIndexed (ctx : Context World) (t : Text) : Watched World Text := do
  let parts ← (segments ctx.sigils t).attach.mapM fun ⟨segment, h⟩ =>
    match segment with
    | .plain content => return content
    | .indexed name bracket index => do
      have := length_of_indexed h
      let name' ← watchSettle ctx roundLimit (← watchIndexed ctx name)
      let index' ← watchSettle ctx roundLimit (← watchIndexed ctx index)
      unnoted (expandIndexed.liftExcept (indexedForm name name' bracket index'))
  return parts.flatten
termination_by t.length

def watchPart (ctx : Context World) (t : Text) : Watched World Text := do
  watchSettle ctx roundLimit (← watchIndexed ctx t)

def watchSegment (ctx : Context World) : Segment → Watched World Text
  | .plain content => return content
  | .indexed name bracket index => do
    let name' ← watchPart ctx name
    let index' ← watchPart ctx index
    unnoted (expandIndexed.liftExcept (indexedForm name name' bracket index'))

theorem watchIndexed_eq (ctx : Context World) (t : Text) :
    watchIndexed ctx t =
      (segments ctx.sigils t).mapM (watchSegment ctx) >>= fun parts => pure parts.flatten := by
  rw [watchIndexed, List.mapM_subtype (g := watchSegment ctx), List.unattach_attach]
  intro segment hs
  cases segment with
  | plain content => rfl
  | indexed name bracket index => simp [watchSegment, watchPart]

def watchRounds (ctx : Context World) : Nat → Text → Watched World Text
  | 0, t => return t
  | n + 1, t => do
    let t' ← watchAll ctx (← watchIndexed ctx t)
    if t' = t || !ctx.mayRefer t' then return t' else watchRounds ctx n t'

def watchExpand (ctx : Context World) (t : Text) : Watched World Text :=
  if ctx.mayRefer t then watchRounds ctx roundLimit t else return t

/-! ## Following -/

/-- The watched computation comes to the same result and the same ledger, and from a cache and notes that
satisfy `I` to such ones. -/
def Follows (I : Cache → List Visit → Prop) (x : Watched World α) (y : Expansion World α) : Prop :=
  ∀ ledger visits, I ledger.cache visits →
    ∃ visits', x.run.run (ledger, visits) = ((y.run.run ledger).1, (y.run.run ledger).2, visits') ∧
      I (y.run.run ledger).2.cache visits'

variable {I : Cache → List Visit → Prop}

theorem follows_pure (a : α) : Follows I (pure a : Watched World α) (pure a) :=
  fun _ visits hI => ⟨visits, rfl, hI⟩

theorem run_watched_bind (x : Watched World α) (f : α → Watched World β) (s : Ledger World × List Visit) :
    (x >>= f).run.run s =
      match x.run.run s with
      | (.ok a, s') => (f a).run.run s'
      | (.error e, s') => (.error e, s') := by
  rw [ExceptT.run_bind, StateT.run_bind]
  cases x.run.run s with
  | mk result s' => cases result <;> rfl

theorem follows_bind {x : Watched World α} {y : Expansion World α} {f : α → Watched World β}
    {g : α → Expansion World β} (hx : Follows I x y) (hf : ∀ a, Follows I (f a) (g a)) :
    Follows I (x >>= f) (y >>= g) := by
  intro ledger visits hI
  obtain ⟨visits', hrun, hI'⟩ := hx ledger visits hI
  rw [run_watched_bind, hrun, run_bind]
  cases hy : y.run.run ledger with
  | mk result ledger' =>
    rw [hy] at hI'
    cases result with
    | ok a => exact hf a ledger' visits' hI'
    | error e => exact ⟨visits', rfl, hI'⟩

theorem follows_unnoted {y : Expansion World α}
    (hy : ∀ ledger, (y.run.run ledger).2.cache = ledger.cache) : Follows I (unnoted y) y :=
  fun ledger visits hI => ⟨visits, rfl, by rwa [hy ledger]⟩

theorem follows_mapM {l : List α} {f : α → Watched World β} {g : α → Expansion World β}
    (h : ∀ a ∈ l, Follows I (f a) (g a)) : Follows I (l.mapM f) (l.mapM g) := by
  induction l with
  | nil => exact follows_pure []
  | cons a l ih =>
    rw [List.mapM_cons, List.mapM_cons]
    refine follows_bind (h a List.mem_cons_self) fun b => ?_
    exact follows_bind (ih fun x hx => h x (List.mem_cons_of_mem a hx)) fun bs => follows_pure (b :: bs)

section

variable (hI : ∀ (setting : Setting World) (t : Text), Follows I (watch setting t) (simplify setting t))
include hI

theorem follows_simplifyAll (ctx : Context World) (t : Text) :
    Follows I (watchAll ctx t) (simplifyAll ctx t) := by
  rw [watchAll, simplifyAll]
  induction ctx generalizing t with
  | nil => exact follows_pure t
  | cons setting ctx ih =>
    rw [List.foldlM_cons, List.foldlM_cons]
    exact follows_bind (hI setting t) ih

theorem follows_settle (ctx : Context World) (n : Nat) (t : Text) :
    Follows I (watchSettle ctx n t) (settle ctx n t) := by
  induction n generalizing t with
  | zero => exact follows_pure t
  | succ n ih =>
    rw [watchSettle, settle]
    split
    · exact follows_pure t
    · refine follows_bind (follows_simplifyAll hI ctx t) fun t' => ?_
      split
      · exact follows_pure t'
      · exact ih t'

theorem follows_expandIndexed (ctx : Context World) (t : Text) :
    Follows I (watchIndexed ctx t) (expandIndexed ctx t) := by
  -- The name and the index of a form are shorter than the text.
  induction h : t.length using Nat.strongRecOn generalizing t with
  | ind n ih =>
    have hpart (u : Text) (hu : u.length < t.length) : Follows I (watchPart ctx u) (expandPart ctx u) :=
      follows_bind (ih u.length (h ▸ hu) u rfl) (follows_settle hI ctx roundLimit)
    rw [watchIndexed_eq, expandIndexed_eq, ← bind_pure_comp]
    refine follows_bind (follows_mapM fun segment hs => ?_) fun parts => follows_pure parts.flatten
    cases segment with
    | plain content => exact follows_pure content
    | indexed name bracket index =>
      obtain ⟨hname, hindex⟩ := length_of_indexed hs
      refine follows_bind (hpart name hname) fun name' => ?_
      refine follows_bind (hpart index hindex) fun index' => ?_
      exact follows_unnoted fun _ => rfl

theorem follows_rounds (ctx : Context World) (n : Nat) (t : Text) :
    Follows I (watchRounds ctx n t) (rounds ctx n t) := by
  induction n generalizing t with
  | zero => exact follows_pure t
  | succ n ih =>
    rw [watchRounds, rounds]
    refine follows_bind (follows_expandIndexed hI ctx t) fun t₁ => ?_
    refine follows_bind (follows_simplifyAll hI ctx t₁) fun t₂ => ?_
    split
    · exact follows_pure t₂
    · exact ih t₂

theorem follows_expand (ctx : Context World) (t : Text) : Follows I (watchExpand ctx t) (expand ctx t) := by
  rw [watchExpand, expand]
  split
  · exact follows_rounds hI ctx _ t
  · exact follows_pure t

end

end MudClient.Reference

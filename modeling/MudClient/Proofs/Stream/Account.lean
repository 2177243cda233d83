import Mathlib.Data.List.Basic
import Mathlib.Data.List.Induction
import Mathlib.Data.List.Perm.Lattice
import MudClient.Proofs.Text.CharacterReference
import MudClient.Stream.GameEvent

/-!
# Every tag in one event

* `GameEvent.Classified`, `GameEvent.classified_ofTag`: what a tag is classified as, and the only tags
  that cannot be classified
* `GameEvent.event?`, `GameEvent.isTold`, `GameEvent.isPlain`: the event that a tag tells of, and tags
  that tell of none
* `GameEvent.arranged`, `GameEvent.ofTags_eq`: where the event of the plain tags stands
* `GameEvent.collect`, `GameEvent.ofTags_eq_collect`: the tags taken one after the other
* `GameEvent.Accounts`: how the events of a line are made up of its tags
* `GameEvent.accounts_ofTags`: the events of every line account for its tags
-/

set_option autoImplicit false

namespace MudClient.Stream.GameEvent

open Markup (Tag)
open CharacterReference (Overlong)
open scoped List

variable {tag : Tag} {tags : List Tag} {event : GameEvent}

/-! ## One tag -/

/-- A prompt with a reference in it that cannot be read. -/
def OverlongPrompt (tag : Tag) : Prop :=
  tag.name = "prompt".toList ∧ Overlong tag.value

/-- A tag is classified as an event of its own, if any, unless it is a prompt that is too long. -/
inductive Classified (tag : Tag) : Except Text.TooManyDigits (Option GameEvent) → Prop
  | plain : ¬OverlongPrompt tag → Classified tag (.ok none)
  | told (event : GameEvent) : ¬OverlongPrompt tag → event.tags = [tag] → event.kind ≠ .text →
      (event.variables.map Prod.fst).Nodup → Classified tag (.ok (some event))
  | failed (e : Text.TooManyDigits) : OverlongPrompt tag → Classified tag (.error e)

theorem ofTag_prompt (hname : tag.name = "prompt".toList) : ofTag tag = (ofPrompt tag).map some := by
  rw [ofTag, if_neg (by rw [hname]; decide), if_pos hname]

theorem classified_ofPrompt (hname : tag.name = "prompt".toList) : Classified tag ((ofPrompt tag).map some) := by
  have hfails := CharacterReference.decode_fails_iff tag.value
  rw [ofPrompt]
  cases hshown : CharacterReference.decode tag.value with
  | error e => exact .failed e ⟨hname, hfails.1 ⟨e, hshown⟩⟩
  | ok shown =>
    refine .told _ (fun h => ?_) rfl (by simp) ?_
    · obtain ⟨e, he⟩ := hfails.2 h.2
      rw [hshown] at he
      cases he
    · cases tag.attribute? "time".toList <;> simp

theorem classified_ofTag (tag : Tag) : Classified tag (ofTag tag) := by
  by_cases hprompt : tag.name = "prompt".toList
  · rw [ofTag_prompt hprompt]
    exact classified_ofPrompt hprompt
  · have hlong : ¬OverlongPrompt tag := fun h => hprompt h.1
    rw [ofTag, if_neg hprompt]
    split_ifs
    · cases roomComponents.lookup (tag.attributeOrEmpty "id".toList) with
      | none => exact .plain hlong
      | some key => exact .told _ hlong rfl (by simp) (List.nodup_singleton _)
    · exact .told _ hlong rfl (by simp) (List.nodup_singleton _)
    · exact .told _ hlong rfl (by simp) List.nodup_nil
    · exact .told _ hlong rfl (by simp) (List.nodup_singleton _)
    · exact .plain hlong

/-- The event that a tag tells of, if it does. -/
def event? (tag : Tag) : Option GameEvent :=
  match ofTag tag with
  | .ok made => made
  | .error _ => none

def isTold (tag : Tag) : Bool :=
  (event? tag).isSome

def isPlain (tag : Tag) : Bool :=
  !isTold tag

theorem ofTag_cases (tag : Tag) :
    (OverlongPrompt tag ∧ ∃ e, ofTag tag = .error e) ∨
      (¬OverlongPrompt tag ∧ ofTag tag = .ok (event? tag)) := by
  have hclassified := classified_ofTag tag
  rw [event?]
  cases hmade : ofTag tag <;> rw [hmade] at hclassified <;> cases hclassified
  case failed e hlong => exact .inl ⟨hlong, e, rfl⟩
  case plain hlong => exact .inr ⟨hlong, rfl⟩
  case told event hlong _ _ _ => exact .inr ⟨hlong, rfl⟩

theorem of_event? (h : event? tag = some event) :
    event.tags = [tag] ∧ event.kind ≠ .text ∧ (event.variables.map Prod.fst).Nodup := by
  have hclassified := classified_ofTag tag
  rw [event?] at h
  split at h
  · next made hmade =>
    rw [hmade, h] at hclassified
    cases hclassified with
    | told _ _ htags hkind hkeys => exact ⟨htags, hkind, hkeys⟩
  · cases h

theorem of_mem_told (h : event ∈ tags.filterMap event?) :
    event.kind ≠ .text ∧ (event.variables.map Prod.fst).Nodup := by
  obtain ⟨tag, -, htag⟩ := List.mem_filterMap.1 h
  exact (of_event? htag).2

/-! ## All tags of a line -/

theorem mapM_ofTag (tags : List Tag) :
    (∃ tag ∈ tags, OverlongPrompt tag ∧ ∃ e, ofTag tag = .error e ∧ tags.mapM ofTag = .error e) ∨
      (∀ tag ∈ tags, ¬OverlongPrompt tag ∧ ofTag tag = .ok (event? tag)) ∧
        tags.mapM ofTag = .ok (tags.map event?) := by
  induction tags with
  | nil => exact .inr ⟨by simp, rfl⟩
  | cons tag tags ih =>
    rw [List.mapM_cons]
    rcases ofTag_cases tag with ⟨hlong, e, hfailed⟩ | ⟨hlong, hmade⟩
    · exact .inl ⟨tag, List.mem_cons_self, hlong, e, hfailed, by rw [hfailed]; rfl⟩
    · rcases ih with ⟨other, hmem, hother, e, hfailed, hrest⟩ | ⟨hall, hrest⟩
      · exact .inl ⟨other, List.mem_cons_of_mem tag hmem, hother, e, hfailed, by rw [hmade, hrest]; rfl⟩
      · exact .inr ⟨List.forall_mem_cons.2 ⟨⟨hlong, hmade⟩, hall⟩, by rw [hmade, hrest]; rfl⟩

theorem plainTags_eq (tags : List Tag) :
    ((tags.zip (tags.map event?)).filterMap fun p => if p.2.isNone then some p.1 else none) =
      tags.filter isPlain := by
  induction tags with
  | nil => rfl
  | cons tag tags ih =>
    rw [List.map_cons, List.zip_cons_cons, List.filterMap_cons, ih, List.filter_cons, isPlain, isTold]
    cases event? tag <;> rfl

/-- The event of all plain tags of a line. -/
def plainEvent (tags : List Tag) : GameEvent :=
  ⟨.text, tags.filter isPlain, []⟩

/-- The events that the tags tell of, with the event of the plain tags behind those of all tags before the
first plain one. -/
def arranged (tags : List Tag) : List GameEvent :=
  (tags.takeWhile isTold).filterMap event? ++ plainEvent tags :: (tags.dropWhile isTold).filterMap event?

theorem placed_eq (plain : GameEvent) (h : ∃ tag ∈ tags, isPlain tag) :
    placed plain (tags.map event?) =
      (tags.takeWhile isTold).filterMap event? ++ plain :: (tags.dropWhile isTold).filterMap event? := by
  induction tags with
  | nil => simp at h
  | cons tag tags ih =>
    cases hevent : event? tag with
    | none =>
      have htold : isTold tag = false := by rw [isTold, hevent]; rfl
      simp [placed, hevent, htold, List.filterMap_map]
    | some event =>
      have htold : isTold tag = true := by rw [isTold, hevent]; rfl
      have hrest : ∃ tag ∈ tags, isPlain tag := by simpa [isPlain, htold] using h
      simp [placed, hevent, htold, ih hrest]

/-- All plain tags are runs of blanks. -/
def BlankOnly (tags : List Tag) : Prop :=
  ∀ tag ∈ tags, isPlain tag → isBlankText tag

theorem all_isBlankText_iff : (tags.filter isPlain).all isBlankText = true ↔ BlankOnly tags := by
  simp only [BlankOnly, List.all_eq_true, List.mem_filter, and_imp]

theorem exists_isPlain (h : ¬BlankOnly tags) : ∃ tag ∈ tags, isPlain tag := by
  by_contra hnone
  exact h fun tag hmem hplain => absurd ⟨tag, hmem, hplain⟩ hnone

theorem ofTags_eq (h : tags.mapM ofTag = .ok (tags.map event?)) :
    (BlankOnly tags ∧ ofTags tags = .ok (tags.filterMap event?)) ∨
      (¬BlankOnly tags ∧ ofTags tags = .ok (arranged tags)) := by
  have heq : ofTags tags = if (tags.filter isPlain).all isBlankText then .ok ((tags.map event?).filterMap id)
      else .ok (placed (plainEvent tags) (tags.map event?)) := by
    rw [ofTags, h, plainEvent, ← plainTags_eq]
    rfl
  by_cases hall : BlankOnly tags
  · rw [heq, if_pos (all_isBlankText_iff.2 hall), List.filterMap_map]
    exact .inl ⟨hall, rfl⟩
  · rw [heq, if_neg (hall ∘ all_isBlankText_iff.1), placed_eq _ (exists_isPlain hall)]
    exact .inr ⟨hall, rfl⟩

/-! ## One tag after the other -/

/-- The events after one more tag. An event of its own goes to the end. A plain tag goes into the text event,
which the first of them opens. -/
def collect (events : List GameEvent) (tag : Tag) : List GameEvent :=
  match event? tag with
  | some event => events ++ [event]
  | none =>
    if events.any fun event => event.kind = .text then
      events.map fun event => if event.kind = .text then { event with tags := event.tags ++ [tag] } else event
    else events ++ [⟨.text, [tag], []⟩]

/-- The first text event is taken away if it is blank. -/
def withoutBlank (events : List GameEvent) : List GameEvent :=
  events.eraseP fun event => event.kind = .text && event.tags.all isBlankText

theorem isPlain_of_event? (h : event? tag = none) : isPlain tag = true := by
  rw [isPlain, isTold, h]
  rfl

theorem isPlain_of_told (h : event? tag = some event) : isPlain tag = false := by
  rw [isPlain, isTold, h]
  rfl

/-- The first plain tag stays where it is when a tag comes behind it. -/
theorem takeWhile_concat (h : tags.any isPlain) (tag : Tag) :
    (tags ++ [tag]).takeWhile isTold = tags.takeWhile isTold ∧
      (tags ++ [tag]).dropWhile isTold = tags.dropWhile isTold ++ [tag] := by
  induction tags with
  | nil => simp at h
  | cons first tags ih =>
    cases htold : isTold first with
    | false => simp [htold]
    | true => simpa [htold] using ih (by simpa [isPlain, htold] using h)

theorem arranged_concat (h : tags.any isPlain) (tag : Tag) :
    arranged (tags ++ [tag]) = (tags.takeWhile isTold).filterMap event? ++
      plainEvent (tags ++ [tag]) :: ((tags.dropWhile isTold).filterMap event? ++ (event? tag).toList) := by
  have hlast : [tag].filterMap event? = (event? tag).toList := by
    cases hevent : event? tag <;> simp [hevent]
  rw [arranged, (takeWhile_concat h tag).1, (takeWhile_concat h tag).2, List.filterMap_append, hlast]

theorem arranged_of_told (h : tags.any isPlain = false) (hplain : event? tag = none) :
    arranged (tags ++ [tag]) = tags.filterMap event? ++ [⟨.text, [tag], []⟩] := by
  have htold : ∀ other ∈ tags, isTold other = true := by simpa [isPlain] using h
  have hnone : tags.filter isPlain = [] := by simpa using h
  have htag : isTold tag = false := by simpa [isPlain] using isPlain_of_event? hplain
  rw [arranged, plainEvent, List.takeWhile_append_of_pos htold, List.dropWhile_append_of_pos htold,
    List.filter_append, hnone]
  simp [htag, hplain, isPlain_of_event? hplain]

theorem collect_told (h : event? tag = some event) (events : List GameEvent) :
    collect events tag = events ++ [event] := by
  rw [collect, h]

theorem collect_first (h : event? tag = none) (tags : List Tag) :
    collect (tags.filterMap event?) tag = tags.filterMap event? ++ [⟨.text, [tag], []⟩] := by
  have hnone : ((tags.filterMap event?).any fun event => event.kind = .text) = false :=
    List.any_eq_false.2 fun event hmem => by simpa using (of_mem_told hmem).1
  rw [collect, h]
  exact if_neg (by simp [hnone])

/-- Among events that tags tell of, a further plain tag goes into the text event and changes nothing else. -/
theorem collect_further (h : event? tag = none) (before after plain : List Tag) :
    collect (before.filterMap event? ++ ⟨.text, plain, []⟩ :: after.filterMap event?) tag =
      before.filterMap event? ++ ⟨.text, plain ++ [tag], []⟩ :: after.filterMap event? := by
  have hkept (tags : List Tag) : ((tags.filterMap event?).map fun event =>
      if event.kind = .text then { event with tags := event.tags ++ [tag] } else event) =
        tags.filterMap event? := by
    refine (List.map_congr_left fun event hmem => ?_).trans (List.map_id _)
    rw [if_neg (of_mem_told hmem).1]
    rfl
  rw [collect, h]
  simp [hkept]

theorem foldl_collect (tags : List Tag) :
    tags.foldl collect [] = if tags.any isPlain then arranged tags else tags.filterMap event? := by
  induction tags using List.reverseRecOn with
  | nil => rfl
  | append_singleton tags tag ih =>
    rw [List.foldl_append, List.foldl_cons, List.foldl_nil, ih, List.any_append]
    -- whether there is a text event already, and whether the last tag goes into it
    cases hany : tags.any isPlain <;> cases hevent : event? tag
    case false.none =>
      have htag := isPlain_of_event? hevent
      simp [collect_first hevent, htag, arranged_of_told hany hevent]
    case false.some event =>
      have htag := isPlain_of_told hevent
      simp [collect_told hevent, htag, hevent]
    case true.none =>
      have htag := isPlain_of_event? hevent
      rw [if_pos rfl, if_pos (by simp), arranged_concat hany, hevent, arranged, plainEvent, collect_further hevent]
      simp [plainEvent, htag]
    case true.some event =>
      have htag := isPlain_of_told hevent
      rw [if_pos rfl, if_pos (by simp), arranged_concat hany, hevent, arranged, collect_told hevent]
      simp [plainEvent, htag]

theorem withoutBlank_told (tags : List Tag) : withoutBlank (tags.filterMap event?) = tags.filterMap event? :=
  List.eraseP_of_forall_not fun event hmem => by simp [(of_mem_told hmem).1]

theorem withoutBlank_arranged (tags : List Tag) : withoutBlank (arranged tags) =
    if (tags.filter isPlain).all isBlankText then tags.filterMap event? else arranged tags := by
  have hbefore : ∀ event ∈ (tags.takeWhile isTold).filterMap event?,
      ¬(event.kind = .text && event.tags.all isBlankText) = true :=
    fun event hmem => by simp [(of_mem_told hmem).1]
  -- no event before the text event is text, so that it is the first one that may be taken away
  rw [withoutBlank, arranged, List.eraseP_append_right _ hbefore]
  by_cases hblank : (tags.filter isPlain).all isBlankText = true
  · rw [if_pos hblank, List.eraseP_cons_of_pos (by simpa [plainEvent] using hblank), ← List.filterMap_append,
      List.takeWhile_append_dropWhile]
  · rw [if_neg hblank, List.eraseP_cons_of_neg (by simpa [plainEvent] using hblank), ← withoutBlank,
      withoutBlank_told]

/-- Tags that are taken one after the other make the same events. -/
theorem ofTags_eq_collect (tags : List Tag) :
    ofTags tags = (tags.mapM ofTag).map fun _ => withoutBlank (tags.foldl collect []) := by
  rcases mapM_ofTag tags with ⟨_, _, _, e, _, hfailed⟩ | ⟨-, hall⟩
  · rw [ofTags, hfailed]
    rfl
  rw [hall, foldl_collect]
  rcases ofTags_eq hall with ⟨hblank, heq⟩ | ⟨hblank, heq⟩
  · rw [heq]
    split
    · rw [withoutBlank_arranged, if_pos (all_isBlankText_iff.2 hblank)]
      rfl
    · rw [withoutBlank_told]
      rfl
  · rw [heq, if_pos (List.any_eq_true.2 (exists_isPlain hblank)), withoutBlank_arranged,
      if_neg (hblank ∘ all_isBlankText_iff.1)]
    rfl

/-- No event sets a variable twice. -/
theorem nodup_keys_of_ofTags {events : List GameEvent} (h : ofTags tags = .ok events) :
    ∀ event ∈ events, (event.variables.map Prod.fst).Nodup := by
  rcases mapM_ofTag tags with ⟨_, _, _, e, _, hfailed⟩ | ⟨-, hall⟩
  · rw [ofTags, hfailed] at h
    cases h
  rcases ofTags_eq hall with ⟨-, heq⟩ | ⟨-, heq⟩
  · obtain rfl := Except.ok.inj (heq.symm.trans h)
    exact fun event hmem => (of_mem_told hmem).2
  · obtain rfl := Except.ok.inj (heq.symm.trans h)
    intro event hmem
    rcases List.mem_append.1 hmem with hmem | hmem
    · exact (of_mem_told hmem).2
    rcases List.mem_cons.1 hmem with rfl | hmem
    · exact List.nodup_nil
    · exact (of_mem_told hmem).2

/-! ## The events of a line -/

/-- How the events of a line are made up of its tags. -/
structure Accounts (tags : List Tag) (events : List GameEvent) : Prop where
  /-- The events that are no text are those that the tags tell of, in the order of the tags. -/
  told : (events.filter fun event => event.kind ≠ .text) = tags.filterMap event?
  /-- Each of them has the tag that tells of it, and no other. -/
  alone : (events.filter fun event => event.kind ≠ .text).map GameEvent.tags =
    (tags.filter isTold).map fun tag => [tag]
  /-- The plain tags make up one event, behind the events of all tags before the first of them. -/
  place : ¬BlankOnly tags → events = arranged tags
  /-- There is no text if there is no plain tag or if all of them are blank. -/
  absent_iff : (∀ event ∈ events, event.kind ≠ .text) ↔ BlankOnly tags
  /-- Every tag is in an event, once for each time that it stands on the line. -/
  once : ¬BlankOnly tags → (events.flatMap GameEvent.tags).Perm tags
  /-- Nothing but blank text is left out. -/
  rest : BlankOnly tags → events = tags.filterMap event? ∧ events.flatMap GameEvent.tags = tags.filter isTold

theorem filter_told (tags : List Tag) :
    ((tags.filterMap event?).filter fun event => event.kind ≠ .text) = tags.filterMap event? := by
  exact List.filter_eq_self.2 fun event hmem => decide_eq_true (of_mem_told hmem).1

theorem map_tags_told (tags : List Tag) :
    (tags.filterMap event?).map GameEvent.tags = (tags.filter isTold).map fun tag => [tag] := by
  induction tags with
  | nil => rfl
  | cons tag tags ih =>
    rw [List.filterMap_cons, List.filter_cons, isTold]
    cases hevent : event? tag with
    | none => exact ih
    | some event =>
      rw [List.map_cons, (of_event? hevent).1, ih]
      rfl

theorem flatMap_tags_told (tags : List Tag) :
    (tags.filterMap event?).flatMap GameEvent.tags = tags.filter isTold := by
  rw [List.flatMap_def, map_tags_told, ← List.flatMap_def, List.flatMap_singleton']

theorem accounts_of_blank (h : BlankOnly tags) : Accounts tags (tags.filterMap event?) where
  told := filter_told tags
  alone := by rw [filter_told, map_tags_told]
  place := fun hnot => absurd h hnot
  absent_iff := iff_of_true (fun _ hmem => (of_mem_told hmem).1) h
  once := fun hnot => absurd h hnot
  rest := fun _ => ⟨rfl, flatMap_tags_told tags⟩

theorem accounts_of_arranged (h : ¬BlankOnly tags) : Accounts tags (arranged tags) := by
  have hboth : tags.takeWhile isTold ++ tags.dropWhile isTold = tags := List.takeWhile_append_dropWhile
  have htold : ((arranged tags).filter fun event => event.kind ≠ .text) = tags.filterMap event? := by
    rw [arranged, List.filter_append, List.filter_cons_of_neg (by simp [plainEvent]), filter_told, filter_told,
      ← List.filterMap_append, hboth]
  refine ⟨htold, by rw [htold, map_tags_told], fun _ => rfl, ?_, fun _ => ?_, fun hblank => absurd hblank h⟩
  · refine iff_of_false (fun hnone => ?_) h
    exact hnone (plainEvent tags) (by simp [arranged]) rfl
  · calc (arranged tags).flatMap GameEvent.tags
        = (tags.takeWhile isTold).filter isTold ++ (tags.filter isPlain ++ (tags.dropWhile isTold).filter isTold) := by
          rw [arranged, List.flatMap_append, List.flatMap_cons, flatMap_tags_told, flatMap_tags_told, plainEvent]
      _ ~ (tags.takeWhile isTold).filter isTold ++ ((tags.dropWhile isTold).filter isTold ++ tags.filter isPlain) :=
          List.perm_append_comm.append_left _
      _ = tags.filter isTold ++ tags.filter isPlain := by
          rw [← List.append_assoc, ← List.filter_append, hboth]
      _ ~ tags := List.filter_append_perm isTold tags

/-- A line with a prompt that is too long is not classified at all. The events of every other line account
for its tags. -/
theorem accounts_ofTags (tags : List Tag) :
    (∃ tag ∈ tags, OverlongPrompt tag ∧ ∃ e, ofTag tag = .error e ∧ ofTags tags = .error e) ∨
      (∀ tag ∈ tags, ¬OverlongPrompt tag ∧ ofTag tag = .ok (event? tag)) ∧
        ∃ events, ofTags tags = .ok events ∧ Accounts tags events := by
  rcases mapM_ofTag tags with ⟨tag, hmem, hlong, e, hfailed, hall⟩ | ⟨hmade, hall⟩
  · exact .inl ⟨tag, hmem, hlong, e, hfailed, by rw [ofTags, hall]; rfl⟩
  · rcases ofTags_eq hall with ⟨hblank, heq⟩ | ⟨hblank, heq⟩
    · exact .inr ⟨hmade, _, heq, accounts_of_blank hblank⟩
    · exact .inr ⟨hmade, _, heq, accounts_of_arranged hblank⟩

/-- A prompt that asks for the character of a number with one digit too many. -/
def longPrompt : Tag :=
  ⟨"prompt".toList, .empty, '&' :: '#' :: (List.replicate (Text.digitLimit + 1) '1' ++ [';']), [], false⟩

theorem accounts_ofTags_longPrompt :
    (∃ e, ofTags [longPrompt] = .error e) ∧
      ¬∃ events, ofTags [longPrompt] = .ok events ∧ Accounts [longPrompt] events := by
  have hlong : OverlongPrompt longPrompt := by
    refine ⟨rfl, List.replicate (Text.digitLimit + 1) '1', ⟨fun c hc => ?_, ?_⟩, ?_⟩
    · rw [List.eq_of_mem_replicate hc]
      rfl
    · rw [List.length_replicate]
      exact Nat.lt_succ_self _
    · exact (List.prefix_append _ [';']).isInfix
  have hfails : ∃ e, ofTags [longPrompt] = .error e := by
    rcases mapM_ofTag [longPrompt] with ⟨_, _, _, e, _, hall⟩ | ⟨hmade, _⟩
    · exact ⟨e, by rw [ofTags, hall]; rfl⟩
    · exact absurd hlong (hmade longPrompt List.mem_cons_self).1
  refine ⟨hfails, ?_⟩
  rintro ⟨events, hevents, -⟩
  obtain ⟨e, he⟩ := hfails
  rw [hevents] at he
  cases he

end MudClient.Stream.GameEvent

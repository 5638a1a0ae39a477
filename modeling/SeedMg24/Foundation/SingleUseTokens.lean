import Mathlib.Data.List.Nodup
import Mathlib.Data.Set.Insert
import SeedMg24.Foundation.Runs

/-!
# Tokens that can be used once

A service hands out tokens, and whoever presents a token takes out what it was handed out for.  Only
the handing out and the taking out are one step each; what was taken out is checked later, while
other callers come and go.
-/

set_option autoImplicit false

namespace Foundation

/-! ## A list with one entry changed -/

theorem mem_modify {α : Type} {f : α → α} {a : α} {l : List α} {i : ℕ} (h : a ∈ l.modify i f) :
    a ∈ l ∨ ∃ old ∈ l, a = f old := by
  obtain ⟨k, hk⟩ := List.mem_iff_getElem?.mp h
  rw [List.getElem?_modify] at hk
  obtain ⟨old, hold, hsame⟩ := Option.map_eq_some_iff.mp hk
  have hmem := List.mem_of_getElem? hold
  split_ifs at hsame
  · exact .inr ⟨old, hmem, hsame.symm⟩
  · exact .inl (hsame ▸ hmem)

/-- A relation that does not see the change. -/
theorem pairwise_modify {α : Type} {r : α → α → Prop} {f : α → α} {l : List α}
    (hleft : ∀ a b, r a b → r (f a) b) (hright : ∀ a b, r a b → r a (f b)) (i : ℕ)
    (h : l.Pairwise r) : (l.modify i f).Pairwise r := by
  induction l generalizing i with
  | nil =>
    rw [List.modify_nil]
    exact h
  | cons a l ih =>
    obtain ⟨hfirst, hrest⟩ := List.pairwise_cons.mp h
    cases i with
    | zero =>
      rw [List.modify_zero_cons]
      exact List.pairwise_cons.mpr ⟨fun b hb => hleft a b (hfirst b hb), hrest⟩
    | succ i =>
      rw [List.modify_succ_cons]
      refine List.pairwise_cons.mpr ⟨fun b hb => ?_, ih i hrest⟩
      rcases mem_modify hb with hb | ⟨old, hold, rfl⟩
      · exact hfirst b hb
      · exact hright a old (hfirst old hold)

/-! ## The service and its callers -/

/-- A service that hands out tokens: its states, the tokens, what they are asked for with, what a
use asks for, when it is checked, what is kept for a token, and the errors. -/
structure TokenService (σ τ I R T V E : Type) where
  issue : σ → I → Except E (σ × τ)
  /-- what a token is handed out for -/
  bound : σ → I → V
  take : σ → τ → σ × Option V
  /-- whether a use is accepted, from what was taken out -/
  check : Option V → R → T → Except E Unit

namespace TokenService

variable {σ τ I R T V E : Type}

/-- A use of a token. -/
structure Use (τ R T V E : Type) where
  token : τ
  request : R
  /-- the token had been handed out before -/
  known : Bool
  found : Option V
  /-- the answer, with the time of the check -/
  answer : Option (T × Except E Unit) := none

/-- A service among its callers. -/
structure Desk (σ τ R T V E : Type) where
  state : σ
  /-- the tokens that were handed out, and what for -/
  handed : List (τ × V) := []
  /-- the uses, in the order in which the tokens were taken -/
  uses : List (Use τ R T V E) := []

inductive Event (τ I R T : Type) where
  | issue (args : I)
  | take (token : τ) (request : R)
  /-- the caller of a use goes on to its check -/
  | check (index : ℕ) (time : T)

variable (service : TokenService σ τ I R T V E)

/-- The check of a use, which is made once. -/
def settle (time : T) (use : Use τ R T V E) : Use τ R T V E :=
  match use.answer with
  | none => { use with answer := some (time, service.check use.found use.request time) }
  | some _ => use

def next [DecidableEq τ] (d : Desk σ τ R T V E) : Event τ I R T → Desk σ τ R T V E
  | .issue args =>
    match service.issue d.state args with
    | .error _ => d
    | .ok (state, token) =>
      { d with state := state, handed := d.handed ++ [(token, service.bound d.state args)] }
  | .take token request =>
    let (state, found) := service.take d.state token
    { d with state := state, uses := d.uses ++
      [{ token := token, request := request, known := token ∈ d.handed.map Prod.fst
         found := found }] }
  | .check index time => { d with uses := d.uses.modify index (service.settle time) }

/-! ## What is promised -/

/-- A use was accepted. -/
def Use.IsAccepted (use : Use τ R T V E) : Prop := ∃ time, use.answer = some (time, .ok ())

/-- Every token is handed out once; a use is accepted only if its token was handed out for it, and
in time; no two uses of a token are accepted; and a use of a token that was handed out, accepted or
not, is followed by no use that is accepted. -/
structure IsSingleUse (grants : V → R → T → Prop) (d : Desk σ τ R T V E) : Prop where
  distinct : (d.handed.map Prod.fst).Nodup
  bound : ∀ use ∈ d.uses, ∀ time, use.answer = some (time, .ok ()) →
    ∃ value, (use.token, value) ∈ d.handed ∧ grants value use.request time
  once : d.uses.Pairwise fun earlier later =>
    earlier.token = later.token → ¬ (earlier.IsAccepted ∧ later.IsAccepted)
  spent : d.uses.Pairwise fun earlier later =>
    earlier.token = later.token → earlier.known = true → ¬ later.IsAccepted

/-- What the operations of a service have to do: `pending` are the tokens that can be taken with
what is kept for them, and `seen` the tokens that are not handed out again. -/
structure IsLawful (pending : σ → Set (τ × V)) (seen : σ → Set τ) (grants : V → R → T → Prop) :
    Prop where
  fresh : ∀ s args after token, service.issue s args = .ok (after, token) →
    token ∉ seen s ∧ insert token (seen s) ⊆ seen after
  issued : ∀ s args after token, service.issue s args = .ok (after, token) →
    pending after ⊆ insert (token, service.bound s args) (pending s)
  kept : ∀ s token, seen s ⊆ seen (service.take s token).1
  taken : ∀ s token, pending (service.take s token).1 ⊆ {entry ∈ pending s | entry.1 ≠ token}
  found : ∀ s token value, (service.take s token).2 = some value → (token, value) ∈ pending s
  checked : ∀ found request time, service.check found request time = .ok () →
    ∃ value, found = some value ∧ grants value request time

/-! ## The invariant -/

/-- A later use of a token that was handed out finds nothing. -/
def FindsNothing (earlier later : Use τ R T V E) : Prop :=
  earlier.token = later.token → earlier.known = true → later.found = none

structure Invariant (pending : σ → Set (τ × V)) (seen : σ → Set τ) (d : Desk σ τ R T V E) :
    Prop where
  distinct : (d.handed.map Prod.fst).Nodup
  handed : ∀ token ∈ d.handed.map Prod.fst, token ∈ seen d.state
  held : ∀ entry ∈ pending d.state, entry ∈ d.handed
  unused : ∀ entry ∈ pending d.state, ∀ use ∈ d.uses, use.token = entry.1 → use.known = false
  known : ∀ use ∈ d.uses, use.known = true → use.token ∈ d.handed.map Prod.fst
  found : ∀ use ∈ d.uses, ∀ value, use.found = some value →
    (use.token, value) ∈ d.handed ∧ use.known = true
  answered : ∀ use ∈ d.uses, ∀ time answer, use.answer = some (time, answer) →
    answer = service.check use.found use.request time
  single : d.uses.Pairwise FindsNothing

variable {service} {pending : σ → Set (τ × V)} {seen : σ → Set τ} {grants : V → R → T → Prop}

/-- What was taken out before a use cannot be taken out again. -/
theorem Invariant.isSingleUse {d : Desk σ τ R T V E} (h : Invariant service pending seen d)
    (hlawful : service.IsLawful pending seen grants) : IsSingleUse grants d := by
  -- an accepted use has found what its token was handed out for
  have haccepted : ∀ use ∈ d.uses, ∀ time, use.answer = some (time, .ok ()) →
      ∃ value, use.found = some value ∧ grants value use.request time := by
    intro use huse time hanswer
    exact hlawful.checked _ _ _ (h.answered use huse time _ hanswer).symm
  have hspent : d.uses.Pairwise fun earlier later =>
      earlier.token = later.token → earlier.known = true → ¬ later.IsAccepted := by
    refine h.single.imp_of_mem ?_
    rintro earlier later - hlater hnothing hsame hknown ⟨time, hanswer⟩
    obtain ⟨value, hfound, -⟩ := haccepted later hlater time hanswer
    rw [hnothing hsame hknown] at hfound
    cases hfound
  refine ⟨h.distinct, fun use huse time hanswer => ?_, ?_, hspent⟩
  · obtain ⟨value, hfound, hgrants⟩ := haccepted use huse time hanswer
    exact ⟨value, (h.found use huse value hfound).1, hgrants⟩
  · refine hspent.imp_of_mem ?_
    rintro earlier later hearlier - hrejected hsame ⟨⟨time, hanswer⟩, hlater⟩
    obtain ⟨value, hfound, -⟩ := haccepted earlier hearlier time hanswer
    exact hrejected hsame (h.found earlier hearlier value hfound).2 hlater

theorem Invariant.issue [DecidableEq τ] {d : Desk σ τ R T V E}
    (h : Invariant service pending seen d)
    (hlawful : service.IsLawful pending seen grants) (args : I) :
    Invariant service pending seen (service.next d (.issue args)) := by
  simp only [next]
  cases hissue : service.issue d.state args with
  | error error => exact h
  | ok result =>
    obtain ⟨after, token⟩ := result
    obtain ⟨hfresh, hseen⟩ := hlawful.fresh d.state args after token hissue
    have hpending := hlawful.issued d.state args after token hissue
    have hnew : token ∉ d.handed.map Prod.fst := fun hmem => hfresh (h.handed token hmem)
    have hhanded : (d.handed ++ [(token, service.bound d.state args)]).map Prod.fst =
        d.handed.map Prod.fst ++ [token] := List.map_append
    refine ⟨?_, fun other hother => ?_, fun entry hentry => ?_,
      fun entry hentry use huse hsame => ?_, fun use huse hknown => ?_, fun use huse value hvalue => ?_, h.answered, h.single⟩
    · rw [hhanded]
      refine List.nodup_append.mpr ⟨h.distinct, List.nodup_singleton _, ?_⟩
      intro other hother new hmem
      rw [List.mem_singleton.mp hmem]
      exact fun hsame => hnew (hsame ▸ hother)
    · rw [hhanded] at hother
      rcases List.mem_append.mp hother with hother | hother
      · exact hseen (Set.mem_insert_of_mem _ (h.handed other hother))
      · exact hseen (List.mem_singleton.mp hother ▸ Set.mem_insert _ _)
    · rcases hpending hentry with rfl | hold
      · exact List.mem_append_right _ (List.mem_singleton_self _)
      · exact List.mem_append_left _ (h.held entry hold)
    · rcases hpending hentry with rfl | hold
      · by_contra hknown
        have hold := h.known use huse (Bool.of_not_eq_false hknown)
        rw [hsame] at hold
        exact hnew hold
      · exact h.unused entry hold use huse hsame
    · rw [hhanded]
      exact List.mem_append_left _ (h.known use huse hknown)
    · obtain ⟨hold, hknown⟩ := h.found use huse value hvalue
      exact ⟨List.mem_append_left _ hold, hknown⟩

theorem Invariant.take [DecidableEq τ] {d : Desk σ τ R T V E} (h : Invariant service pending seen d)
    (hlawful : service.IsLawful pending seen grants) (token : τ) (request : R) :
    Invariant service pending seen (service.next d (.take token request)) := by
  simp only [next]
  have htaken := hlawful.taken d.state token
  have hfound := hlawful.found d.state token
  refine ⟨h.distinct, fun other hother => hlawful.kept _ _ (h.handed other hother),
    fun entry hentry => h.held entry (htaken hentry).1, fun entry hentry use huse hsame => ?_,
    fun use huse hknown => ?_, fun use huse value hvalue => ?_,
    fun use huse time answer hanswer => ?_,
    ?_⟩
  · rcases List.mem_append.mp huse with huse | huse
    · exact h.unused entry (htaken hentry).1 use huse hsame
    · obtain rfl := List.mem_singleton.mp huse
      exact absurd hsame.symm (htaken hentry).2
  · rcases List.mem_append.mp huse with huse | huse
    · exact h.known use huse hknown
    · obtain rfl := List.mem_singleton.mp huse
      exact of_decide_eq_true hknown
  · rcases List.mem_append.mp huse with huse | huse
    · exact h.found use huse value hvalue
    · obtain rfl := List.mem_singleton.mp huse
      have hhanded := h.held _ (hfound value hvalue)
      exact ⟨hhanded, decide_eq_true (List.mem_map_of_mem (f := Prod.fst) hhanded)⟩
  · rcases List.mem_append.mp huse with huse | huse
    · exact h.answered use huse time answer hanswer
    · obtain rfl := List.mem_singleton.mp huse
      cases hanswer
  · refine List.pairwise_append.mpr ⟨h.single, List.pairwise_singleton _ _, ?_⟩
    intro earlier hearlier later hlater hsame hknown
    obtain rfl := List.mem_singleton.mp hlater
    by_contra hsome
    obtain ⟨value, hvalue⟩ := Option.ne_none_iff_exists'.mp hsome
    have hunknown := h.unused _ (hfound value hvalue) earlier hearlier hsame
    rw [hknown] at hunknown
    cases hunknown

/-- A check changes nothing but an answer. -/
theorem settle_eq (service : TokenService σ τ I R T V E) (time : T) (use : Use τ R T V E) :
    (service.settle time use).token = use.token ∧
      (service.settle time use).request = use.request ∧
      (service.settle time use).known = use.known ∧
      (service.settle time use).found = use.found := by
  unfold settle
  cases use.answer <;> exact ⟨rfl, rfl, rfl, rfl⟩

theorem Invariant.check [DecidableEq τ] {d : Desk σ τ R T V E}
    (h : Invariant service pending seen d) (index : ℕ) (time : T) :
    Invariant service pending seen (service.next d (.check index time)) := by
  simp only [next]
  refine ⟨h.distinct, h.handed, h.held, fun entry hentry use huse hsame => ?_,
    fun use huse hknown => ?_, fun use huse value hvalue => ?_,
    fun use huse at' answer hanswer => ?_,
    ?_⟩
  · rcases mem_modify huse with hold | ⟨old, hold, rfl⟩
    · exact h.unused entry hentry use hold hsame
    · obtain ⟨htoken, -, hknown, -⟩ := settle_eq service time old
      rw [hknown]
      exact h.unused entry hentry old hold (htoken ▸ hsame)
  · rcases mem_modify huse with hold | ⟨old, hold, rfl⟩
    · exact h.known use hold hknown
    · obtain ⟨htoken, -, hsame, -⟩ := settle_eq service time old
      rw [htoken]
      exact h.known old hold (hsame ▸ hknown)
  · rcases mem_modify huse with hold | ⟨old, hold, rfl⟩
    · exact h.found use hold value hvalue
    · obtain ⟨htoken, -, hknown, hfound⟩ := settle_eq service time old
      rw [htoken, hknown]
      exact h.found old hold value (hfound ▸ hvalue)
  · rcases mem_modify huse with hold | ⟨old, hold, rfl⟩
    · exact h.answered use hold at' answer hanswer
    · obtain ⟨-, hrequest, -, hfound⟩ := settle_eq service time old
      rw [hrequest, hfound]
      unfold settle at hanswer
      cases hearlier : old.answer with
      | none =>
        rw [hearlier] at hanswer
        cases hanswer
        rfl
      | some earlier =>
        rw [hearlier] at hanswer
        exact h.answered old hold at' answer (hearlier.trans (hearlier.symm.trans hanswer))
  · refine pairwise_modify (fun a b hab => ?_) (fun a b hab => ?_) index h.single
    · obtain ⟨htoken, -, hknown, -⟩ := settle_eq service time a
      unfold FindsNothing at hab ⊢
      rwa [htoken, hknown]
    · obtain ⟨htoken, -, -, hfound⟩ := settle_eq service time b
      unfold FindsNothing at hab ⊢
      rwa [htoken, hfound]

/-- **The tokens of a lawful service can be used once**, whatever its callers do. -/
theorem IsLawful.isSingleUse [DecidableEq τ] (hlawful : service.IsLawful pending seen grants)
    {start : σ} (hstart : pending start = ∅) (events : List (Event τ I R T)) :
    IsSingleUse grants (Runs.after service.next { state := start } events) := by
  have hinvariant : Invariant service pending seen { state := start } := by
    refine ⟨List.nodup_nil, fun _ h => ?_, fun entry h => ?_, fun _ _ _ h => ?_, fun _ h => ?_,
      fun _ h => ?_, fun _ h => ?_, List.Pairwise.nil⟩
    · cases h
    · rw [hstart] at h
      cases h
    · cases h
    · cases h
    · cases h
    · cases h
  refine (Runs.after_invariant service.next hinvariant (fun d event h => ?_) events).isSingleUse
    hlawful
  cases event with
  | issue args => exact h.issue hlawful args
  | take token request => exact h.take hlawful token request
  | check index time => exact h.check index time

end TokenService

end Foundation

import ZAF.ActorBehavior.RequestHandlers

/-! # Whether the entries match their owners

    One lemma for each operation says when the entries match the owners behind it, if they
    did before. A request that an `on_reply` waits for never comes back to the table: this
    is what has to be known besides.
-/

namespace ZAF.Requesting

open LTS

variable {Body : Type} {s s' : State Body}

/-! ### Owners -/

/-- A handler that is released owns nothing, the others own what they did. -/
theorem owns_release {o o' id : Nat} :
    (s.release o).owns o' id ↔ o' ≠ o ∧ s.owns o' id := by
  simp only [State.owns, State.release, Function.update_apply]
  split
  · next heq =>
    refine iff_of_false ?_ fun h => h.1 heq
    intro h
    obtain ⟨h', -, heq⟩ := Option.map_eq_some_iff.mp h
    cases heq
  · next hne => exact (and_iff_right hne).symm

/-- `o` owns what `other` did. It may be the same handler, which then owns nothing: it has set
    its own `self` to null. -/
theorem owns_take_over {o other : Nat} {h : RequestHandler} (hother : s.handlers other = some h)
    {o' id : Nat} : (s.take_over o other h).owns o' id ↔
      (o' = o ∧ o ≠ other ∧ s.owns other id) ∨ (o' ≠ o ∧ o' ≠ other ∧ s.owns o' id) := by
  rw [State.take_over, owns_release]
  simp only [State.owns, Function.update_apply]
  by_cases heq : o' = o
  · subst heq
    simp [hother]
  · simp [heq]

/-- A handler owns one request at most. -/
theorem owns_inj {o id id' : Nat} (h : s.owns o id) (h' : s.owns o id') : id = id' :=
  congrArg RequestHandler.request_id (Option.some.inj (h.symm.trans h'))

/-- The `on_reply` of an owner has taken the entry out of the table. -/
theorem awaited_iff {o : Nat} :
    s.awaited o = true ↔ ∃ id, s.owns o id ∧ (o, id) ∈ s.waiting := by
  simp only [State.awaited, Option.any_eq_true, Bool.and_eq_true, decide_eq_true_eq]
  constructor
  · rintro ⟨⟨_, id⟩, h, rfl, hmem⟩
    exact ⟨id, h, hmem⟩
  · rintro ⟨id, h, hmem⟩
    exact ⟨⟨true, id⟩, h, rfl, hmem⟩

/-- The entry of an owner is still in the table. -/
theorem listed_iff {o : Nat} :
    s.listed o = true ↔ ∃ id, s.owns o id ∧ (o, id) ∉ s.waiting := by
  simp only [State.listed, Option.any_eq_true, Bool.and_eq_true, decide_eq_true_eq]
  constructor
  · rintro ⟨⟨_, id⟩, h, rfl, hmem⟩
    exact ⟨id, h, hmem⟩
  · rintro ⟨id, h, hmem⟩
    exact ⟨⟨true, id⟩, h, rfl, hmem⟩

theorem has_self_iff {o : Nat} : s.has_self o = true ↔ ∃ id, s.owns o id := by
  simp only [State.has_self, Option.any_eq_true]
  constructor
  · rintro ⟨⟨_, id⟩, h, rfl⟩
    exact ⟨id, h⟩
  · rintro ⟨id, h⟩
    exact ⟨⟨true, id⟩, h, rfl⟩

/-! ### What is known -/

/-- What is known of a run besides: ids are given in order, and each is waited for once. -/
structure Known (s : State Body) : Prop where
  issued : ∀ {o h}, s.handlers o = some h → h.request_id < s.request_id
  /-- What is waited for is not in the table. -/
  taken_out : ∀ {o id}, (o, id) ∈ s.waiting →
    id < s.request_id ∧ s.unfinished_requests id = none
  distinct : (s.waiting.map Prod.snd).Nodup

theorem known_start : Known (start Body) where
  issued := nofun
  taken_out := nofun
  distinct := .nil

theorem oneToOne_start : OneToOne (start Body) where
  defined := rfl
  keys _ := iff_of_false (fun h => h rfl) nofun
  unique := nofun

/-- Only one `on_reply` waits for a request. -/
theorem Known.unique (hk : Known s) {o o' id : Nat} (h : (o, id) ∈ s.waiting)
    (h' : (o', id) ∈ s.waiting) : o = o' :=
  congrArg Prod.fst (List.inj_on_of_nodup_map hk.distinct h h' rfl)

theorem Known.not_waiting (hk : Known s) {o id : Nat} (h : s.unfinished_requests id ≠ none) :
    (o, id) ∉ s.waiting :=
  fun hmem => h (hk.taken_out hmem).2

/-- The only owner of a request that is in the table. -/
theorem OneToOne.key_of_owner (h : OneToOne s) {o id : Nat} (howns : s.owns o id)
    (hnot : (o, id) ∉ s.waiting) : s.unfinished_requests id ≠ none :=
  (h.keys id).mpr ⟨o, howns, hnot⟩

/-- An entry is one of a request that has been issued. -/
theorem OneToOne.key_lt (h : OneToOne s) (hk : Known s) {id : Nat}
    (hkey : s.unfinished_requests id ≠ none) : id < s.request_id := by
  obtain ⟨o, howns, -⟩ := (h.keys id).mp hkey
  exact hk.issued howns

/-! ### An entry is erased -/

/-- Of the entries in the table, exactly the one that is erased is gone. -/
theorem erased_iff {own id : Nat} (hkey : s.unfinished_requests id ≠ none) :
    Function.update s.unfinished_requests own none id = none ↔ some own = some id := by
  rw [Option.some_inj]
  by_cases hid : id = own
  · subst hid
    exact iff_of_true (Function.update_self ..) rfl
  · rw [Function.update_of_ne hid]
    exact iff_of_false hkey fun heq => hid heq.symm

/-- What is waited for stays out of the table. -/
theorem Known.taken_out_erase (hk : Known s) (own : Nat) {o id : Nat}
    (hmem : (o, id) ∈ s.waiting) :
    id < s.request_id ∧ Function.update s.unfinished_requests own none id = none := by
  obtain ⟨hlt, hnone⟩ := hk.taken_out hmem
  refine ⟨hlt, ?_⟩
  rw [Function.update_apply]
  split
  · rfl
  · exact hnone

/-- An owner goes together with its entry. -/
theorem OneToOne.keys_erase (h : OneToOne s) {o own : Nat} (howns : s.owns o own) (id : Nat) :
    Function.update s.unfinished_requests own none id ≠ none ↔
      ∃ o', (o' ≠ o ∧ s.owns o' id) ∧ (o', id) ∉ s.waiting := by
  by_cases hid : id = own
  · subst hid
    rw [Function.update_self]
    refine iff_of_false (fun h' => h' rfl) ?_
    rintro ⟨o', ⟨hne, howns'⟩, -⟩
    exact hne (h.unique howns' howns)
  · rw [Function.update_of_ne hid, h.keys]
    refine exists_congr fun o' => and_congr_left fun _ => ?_
    refine ⟨fun howns' => ⟨?_, howns'⟩, fun howns' => howns'.2⟩
    rintro rfl
    exact hid (owns_inj howns' howns)

/-! ### What a step does -/

/-- What has to be shown of a step: its condition is exact, what is known stays known, and the
    entry that it removes is its own. -/
structure Outcome (s : State Body) (l : Label Body) (s' : State Body) : Prop where
  one_to_one : OneToOne s' ↔ careful s l = true
  known : OneToOne s' → Known s'
  removes : OneToOne s' → ∀ id, s.unfinished_requests id ≠ none →
    (s'.unfinished_requests id = none ↔ own_entry s l = some id)

theorem not_oneToOne_undefined : ¬ OneToOne s.undefined_behavior := fun h => nomatch h.defined

/-- The step goes wrong at once. -/
theorem Outcome.of_undefined {l : Label Body} (hl : careful s l = false) :
    Outcome s l s.undefined_behavior where
  one_to_one := iff_of_false not_oneToOne_undefined (by rw [hl]; exact Bool.false_ne_true)
  known h := absurd h not_oneToOne_undefined
  removes h := absurd h not_oneToOne_undefined

/-- The step does not concern owners and entries. -/
structure Unconcerned (s s' : State Body) : Prop where
  handlers : s'.handlers = s.handlers
  request_id : s'.request_id = s.request_id
  waiting : s'.waiting = s.waiting
  keys : ∀ id, s'.unfinished_requests id = none ↔ s.unfinished_requests id = none
  undefined : s'.undefined = s.undefined

theorem Unconcerned.outcome {l : Label Body} (hsame : Unconcerned s s') (hk : Known s)
    (h : OneToOne s) (hl : careful s l = true) (hown : own_entry s l = none) :
    Outcome s l s' where
  one_to_one := by
    refine iff_of_true ⟨hsame.undefined.trans h.defined, fun id => ?_, ?_⟩ hl
    · rw [ne_eq, hsame.keys]
      simp only [State.owns, hsame.handlers, hsame.waiting]
      exact h.keys id
    · simp only [State.owns, hsame.handlers]
      exact h.unique
  known _ := by
    refine ⟨?_, ?_, ?_⟩
    · rw [hsame.handlers, hsame.request_id]
      exact hk.issued
    · simp only [hsame.waiting, hsame.request_id, hsame.keys]
      exact hk.taken_out
    · rw [hsame.waiting]
      exact hk.distinct
  removes _ id hkey := by
    rw [hsame.keys, hown]
    exact iff_of_false hkey nofun

/-- A response is put into an entry that is there, or it is ignored. -/
theorem unconcerned_store_response (s : State Body) (req_id : Nat) (response : Body) :
    Unconcerned s (s.store_response req_id response) := by
  rw [State.store_response]
  split
  · next entry hentry =>
    refine ⟨rfl, rfl, rfl, fun id => ?_, rfl⟩
    simp only [Function.update_apply]
    split
    · next heq => rw [heq, hentry]; simp
    · rfl
  · exact ⟨rfl, rfl, rfl, fun _ => .rfl, rfl⟩

/-- Only calls that do not wait come or go. -/
theorem unconcerned_stack (stack : List Frame)
    (hstack : stack.filterMap Frame.waits_for = s.waiting) :
    Unconcerned s { s with stack := stack } :=
  ⟨rfl, rfl, hstack, fun _ => .rfl, rfl⟩

/-- A handler keeps its id when it is released. -/
theorem issued_release (hk : Known s) {o o' : Nat} {h : RequestHandler}
    (hh : (s.release o).handlers o' = some h) : h.request_id < s.request_id := by
  rw [State.release] at hh
  simp only [Function.update_apply] at hh
  split at hh
  · obtain ⟨h', hh', rfl⟩ := Option.map_eq_some_iff.mp hh
    exact hk.issued (h := h') hh'
  · exact hk.issued hh

/-! ### Handlers come and go -/

/-- The new entry and the new handler belong together, since the id is a new one. -/
theorem request_outcome (hk : Known s) (h : OneToOne s) {o : Nat} {rehash : Bool}
    (hs' : s.request o rehash = some s') : Outcome s (.request o rehash) s' := by
  -- `emplace` would keep an old entry of this id
  have hfresh : s.unfinished_requests s.request_id = none := by
    by_contra hkey
    exact absurd (h.key_lt hk hkey) (Nat.lt_irrefl _)
  have hemplace : s.emplace s.request_id rehash = { s with
      unfinished_requests := Function.update s.unfinished_requests s.request_id (some none)
      generation := if rehash then s.generation + 1 else s.generation } := by
    rw [State.emplace, hfresh]
    exact if_neg Bool.false_ne_true
  rw [State.request, hemplace, Option.ite_none_right_eq_some] at hs'
  obtain ⟨⟨hfree, -⟩, hs'⟩ := hs'
  have hfree := Option.isNone_iff_eq_none.mp hfree
  obtain rfl := Option.some.inj hs'
  have hnot : (o, s.request_id) ∉ s.waiting := fun hmem =>
    Nat.lt_irrefl _ (hk.taken_out hmem).1
  -- the new handler is not one of the old owners
  have hold {o' id : Nat} (howns : s.owns o' id) : o' ≠ o := by
    rintro rfl
    rw [State.owns, hfree] at howns
    cases howns
  refine ⟨iff_of_true ⟨h.defined, fun id => ?_, fun {o₁ o₂ id} h₁ h₂ => ?_⟩ rfl,
    fun _ => ⟨fun {o' h'} hh' => ?_, fun {o' id} hmem => ?_, hk.distinct⟩, fun _ id hkey => ?_⟩
  · show Function.update s.unfinished_requests s.request_id (some none) id ≠ none ↔
      ∃ o', Function.update s.handlers o (some ⟨true, s.request_id⟩) o' = some ⟨true, id⟩ ∧
        (o', id) ∉ s.waiting
    by_cases hid : id = s.request_id
    · subst hid
      rw [Function.update_self]
      exact iff_of_true (Option.some_ne_none _) ⟨o, Function.update_self .., hnot⟩
    · rw [Function.update_of_ne hid, h.keys]
      constructor
      · rintro ⟨o', howns, hmem⟩
        exact ⟨o', (Function.update_of_ne (hold howns) ..).trans howns, hmem⟩
      · rintro ⟨o', howns, hmem⟩
        rw [Function.update_apply] at howns
        split at howns
        · cases howns
          exact absurd rfl hid
        · exact ⟨o', howns, hmem⟩
  -- two handlers of one request are both new or both old
  · have hcases {o' : Nat}
        (h' : Function.update s.handlers o (some ⟨true, s.request_id⟩) o' = some ⟨true, id⟩) :
        o' = o ∧ id = s.request_id ∨ s.owns o' id := by
      rw [Function.update_apply] at h'
      split at h'
      · next heq =>
        cases h'
        exact .inl ⟨heq, rfl⟩
      · exact .inr h'
    have hlt {o' : Nat} (howns : s.owns o' id) : id ≠ s.request_id :=
      Nat.ne_of_lt (hk.issued howns)
    rcases hcases h₁ with ⟨rfl, hid⟩ | hold₁ <;> rcases hcases h₂ with ⟨rfl, hid'⟩ | hold₂
    · rfl
    · exact absurd hid (hlt hold₂)
    · exact absurd hid' (hlt hold₁)
    · exact h.unique hold₁ hold₂
  -- the ids stay below the next one
  · show h'.request_id < s.request_id + 1
    simp only [Function.update_apply] at hh'
    split at hh'
    · cases hh'
      exact Nat.lt_succ_self _
    · exact Nat.lt_succ_of_lt (hk.issued hh')
  · obtain ⟨hlt, hnone⟩ := hk.taken_out hmem
    exact ⟨Nat.lt_succ_of_lt hlt, (Function.update_of_ne (Nat.ne_of_lt hlt) ..).trans hnone⟩
  · refine iff_of_false ?_ nofun
    show Function.update s.unfinished_requests s.request_id (some none) id ≠ none
    rwa [Function.update_of_ne (Nat.ne_of_lt (h.key_lt hk hkey))]

/-- The two moves: the entries are not touched, the ownership of `other` goes to `o`. -/
theorem take_over_outcome (hk : Known s) (h : OneToOne s) {l : Label Body} {o other : Nat}
    {hd : RequestHandler} (hother : s.handlers other = some hd)
    (hl : careful s l = true ↔ ¬ s.listed o = true ∧ (¬ s.awaited other = true ∨ o = other))
    (hown : own_entry s l = none) : Outcome s l (s.take_over o other hd) := by
  have hwaiting : (s.take_over o other hd).waiting = s.waiting := rfl
  refine ⟨?_, fun h' => ⟨fun {o' h'} hh' => ?_, hk.taken_out, hk.distinct⟩, fun _ id hkey => ?_⟩
  · rw [hl, listed_iff, awaited_iff]
    constructor
    · intro h'
      constructor
      · -- an entry of `o` has no owner any more
        rintro ⟨id, howns, hnot⟩
        obtain ⟨o', howns', -⟩ := (h'.keys id).mp (h.key_of_owner howns hnot)
        rcases owns_take_over hother |>.mp howns' with ⟨rfl, hne, howns'⟩ | ⟨hne, -, howns'⟩
        · exact hne (h.unique howns howns')
        · exact hne (h.unique howns' howns)
      · -- a request that is waited for has an owner that does not wait
        by_contra hcon
        obtain ⟨hawaited, hne⟩ := not_or.mp hcon
        obtain ⟨id, howns, hmem⟩ := not_not.mp hawaited
        have howns' : (s.take_over o other hd).owns o id :=
          (owns_take_over hother).mpr (.inl ⟨rfl, hne, howns⟩)
        exact h'.key_of_owner howns' (fun hmem' => hne (hk.unique hmem' hmem))
          (hk.taken_out hmem).2
    -- otherwise every entry has an owner again: the one that had it, or `o` for `other`
    · rintro ⟨hlisted, hawaited⟩
      refine ⟨h.defined, fun id => ?_, fun {o₁ o₂ id} h₁ h₂ => ?_⟩
      · show s.unfinished_requests id ≠ none ↔ _
        rw [hwaiting]
        constructor
        · intro hkey
          obtain ⟨o', howns, hnot⟩ := (h.keys id).mp hkey
          have hne : o' ≠ o := by
            rintro rfl
            exact hlisted ⟨id, howns, hnot⟩
          by_cases heq : o' = other
          · subst heq
            exact ⟨o, (owns_take_over hother).mpr (.inl ⟨rfl, hne.symm, howns⟩),
              hk.not_waiting hkey⟩
          · exact ⟨o', (owns_take_over hother).mpr (.inr ⟨hne, heq, howns⟩), hnot⟩
        · rintro ⟨o', howns, hnot⟩
          rcases owns_take_over hother |>.mp howns with ⟨rfl, hne, howns⟩ | ⟨-, -, howns⟩
          · apply h.key_of_owner howns
            intro hmem
            exact hawaited.elim (fun hnot => hnot ⟨id, howns, hmem⟩) hne
          · exact h.key_of_owner howns hnot
      · rcases owns_take_over hother |>.mp h₁ with ⟨rfl, -, hold₁⟩ | ⟨-, hne₁, hold₁⟩ <;>
          rcases owns_take_over hother |>.mp h₂ with ⟨rfl, -, hold₂⟩ | ⟨-, hne₂, hold₂⟩
        · rfl
        · exact absurd (h.unique hold₂ hold₁) hne₂
        · exact absurd (h.unique hold₁ hold₂) hne₁
        · exact h.unique hold₁ hold₂
  · -- the ids are those of handlers that were there
    have hold : ∃ o' h'', s.handlers o' = some h'' ∧ h''.request_id = h'.request_id := by
      simp only [State.take_over, State.release, Function.update_apply] at hh'
      split at hh'
      · obtain ⟨h'', hh'', rfl⟩ := Option.map_eq_some_iff.mp hh'
        split at hh''
        · exact ⟨other, hd, hother, by cases hh''; rfl⟩
        · exact ⟨other, h'', hh'' ▸ rfl, rfl⟩
      · split at hh'
        · exact ⟨other, hd, hother, by cases hh'; rfl⟩
        · exact ⟨o', h', hh', rfl⟩
    obtain ⟨o', h'', hh'', heq⟩ := hold
    rw [← heq]
    exact hk.issued hh''
  · rw [hown]
    exact iff_of_false hkey nofun

/-- A handler goes with its entry, whoever waits for it. One that is null has no entry. -/
theorem destroy_outcome (hk : Known s) (h : OneToOne s) {o : Nat}
    (hs' : s.destroy o = some s') : Outcome s (.destroy o) s' := by
  rw [State.destroy] at hs'
  split at hs'
  · next hd hhandler =>
    obtain ⟨has_self, own⟩ := hd
    have howns' {o' id : Nat} :
        Function.update s.handlers o none o' = some ⟨true, id⟩ ↔ o' ≠ o ∧ s.owns o' id := by
      rw [Function.update_apply]
      split
      · next heq => exact iff_of_false nofun fun h' => h'.1 heq
      · next hne => exact (and_iff_right hne).symm
    -- the ids are those of handlers that are still there
    have hissued {o' : Nat} {h' : RequestHandler}
        (hh' : Function.update s.handlers o none o' = some h') : h'.request_id < s.request_id := by
      rw [Function.update_apply] at hh'
      split at hh'
      · cases hh'
      · exact hk.issued hh'
    cases has_self with
    | false =>
      obtain rfl := Option.some.inj hs'
      have hold {o' id : Nat} (howns : s.owns o' id) : o' ≠ o := by
        rintro rfl
        rw [State.owns, hhandler] at howns
        cases howns
      refine ⟨iff_of_true ⟨h.defined, fun id => ?_, ?_⟩ rfl, fun _ => ⟨hissued, hk.taken_out,
        hk.distinct⟩, fun _ id hkey => ?_⟩
      · refine (h.keys id).trans (exists_congr fun o' => and_congr_left fun _ => ?_)
        exact ⟨fun howns => howns'.mpr ⟨hold howns, howns⟩, fun howns => (howns'.mp howns).2⟩
      · exact fun h₁ h₂ => h.unique (howns'.mp h₁).2 (howns'.mp h₂).2
      · rw [own_entry, hhandler]
        exact iff_of_false hkey nofun
    | true =>
      obtain rfl := Option.some.inj hs'
      refine ⟨iff_of_true ⟨h.defined, fun id => ?_, ?_⟩ rfl,
        fun _ => ⟨hissued, hk.taken_out_erase own, hk.distinct⟩, fun _ id hkey => ?_⟩
      · show Function.update s.unfinished_requests own none id ≠ none ↔
          ∃ o', Function.update s.handlers o none o' = some ⟨true, id⟩ ∧ (o', id) ∉ s.waiting
        simp only [howns']
        exact h.keys_erase hhandler id
      · exact fun h₁ h₂ => h.unique (howns'.mp h₁).2 (howns'.mp h₂).2
      · rw [own_entry, hhandler]
        exact erased_iff hkey
  · cases hs'

/-! ### `on_reply` -/

/-- `on_reply` finds a response, or an entry without one, or no entry at all: then another
    `on_reply` of this handler waits already. -/
theorem on_reply_outcome (hk : Known s) (h : OneToOne s) {o : Nat}
    (hs' : s.on_reply o = some s') : Outcome s (.on_reply o) s' := by
  -- a request that is not in the table is waited for
  have hcareful {id : Nat} (howns : s.owns o id) :
      careful s (.on_reply o) = (s.unfinished_requests id).isSome := by
    rw [careful, Bool.eq_iff_iff, Bool.not_eq_true', ← Bool.not_eq_true, awaited_iff,
      Option.isSome_iff_ne_none]
    constructor
    · intro hnot
      exact h.key_of_owner howns fun hmem => hnot ⟨id, howns, hmem⟩
    · rintro hkey ⟨id', howns', hmem⟩
      obtain rfl := owns_inj howns howns'
      exact hkey (hk.taken_out hmem).2
  rw [State.on_reply] at hs'
  split at hs'
  · next id howns =>
    have hown : own_entry s (.on_reply o) =
        if (s.unfinished_requests id).all Option.isNone then some id else none := by
      rw [own_entry, howns]
      rfl
    split at hs'
    · next response hentry =>
      obtain rfl := Option.some.inj hs'
      apply (unconcerned_stack (.stored o id s.generation :: s.stack) rfl).outcome hk h
      · rw [hcareful howns, hentry]
        rfl
      · rw [hown, hentry]
        rfl
    · next hentry =>
      obtain rfl := Option.some.inj hs'
      have hkey : s.unfinished_requests id ≠ none := by
        rw [hentry]
        exact Option.some_ne_none _
      have hl : careful s (.on_reply o) = true := by
        rw [hcareful howns, hentry]
        rfl
      -- the entry is taken out and its owner begins to wait
      refine ⟨iff_of_true ⟨h.defined, fun id' => ?_, h.unique⟩ hl, fun _ => ⟨hk.issued, ?_, ?_⟩,
        fun _ id' hkey' => ?_⟩
      · show Function.update s.unfinished_requests id none id' ≠ none ↔
          ∃ o', s.owns o' id' ∧ (o', id') ∉ (o, id) :: s.waiting
        simp only [List.mem_cons, Prod.mk.injEq, not_or]
        by_cases hid : id' = id
        · subst hid
          rw [Function.update_self]
          refine iff_of_false (fun h' => h' rfl) ?_
          rintro ⟨o', howns', hne, -⟩
          exact hne ⟨h.unique howns' howns, rfl⟩
        · rw [Function.update_of_ne hid, h.keys]
          refine exists_congr fun o' => and_congr_right fun _ => ?_
          exact (and_iff_right fun heq => hid heq.2).symm
      · intro o' id' hmem
        rcases List.mem_cons.mp hmem with heq | hmem
        · cases heq
          exact ⟨h.key_lt hk hkey, Function.update_self ..⟩
        · exact hk.taken_out_erase id hmem
      · refine List.nodup_cons.mpr ⟨fun hmem => ?_, hk.distinct⟩
        obtain ⟨⟨o', id'⟩, hmem, heq⟩ := List.mem_map.mp hmem
        cases heq
        exact hk.not_waiting hkey hmem
      · rw [hown, hentry]
        exact erased_iff hkey'
    · next hentry =>
      obtain rfl := Option.some.inj hs'
      apply Outcome.of_undefined
      rw [hcareful howns, hentry]
      rfl
  -- the handler is null: it throws
  · next id hhandler =>
    obtain rfl := Option.some.inj hs'
    apply Unconcerned.outcome ⟨rfl, rfl, rfl, fun _ => .rfl, rfl⟩ hk h
    · rw [careful, State.awaited, hhandler]
      rfl
    · rw [own_entry, hhandler]
      rfl
  · cases hs'

/-- The lambda for `Response` reads `request_id` and `self` of the handler that waits, which may
    have been moved from or destroyed by a callback. -/
theorem receive_response_outcome (hk : Known s) (h : OneToOne s) {req_id : Nat} {response : Body}
    (hs' : s.receive_response req_id response = some s') :
    Outcome s (.receive_response req_id response) s' := by
  rw [State.receive_response] at hs'
  split at hs'
  · next o id rest hstack =>
    have hl : careful s (.receive_response req_id response) =
        (s.handlers o).any fun hd => hd.has_self || hd.request_id = req_id := by
      rw [careful, hstack]
    split at hs'
    · next hd hhandler =>
      rw [hhandler, Option.any_some] at hl
      split at hs'
      · next heq =>
        -- it is the response: the reply handler runs
        obtain rfl := Option.some.inj hs'
        apply (unconcerned_stack (.waits o id .replying :: rest) _).outcome hk h _ rfl
        · rw [State.waiting, hstack]
          rfl
        · rw [hl, Bool.or_eq_true]
          exact .inr (decide_eq_true heq)
      · next hne =>
        split at hs'
        -- it is another one, and is stored through `self`
        · next hself =>
          obtain rfl := Option.some.inj hs'
          apply (unconcerned_store_response s req_id response).outcome hk h _ rfl
          rw [hl, hself]
          rfl
        · next hnull =>
          obtain rfl := Option.some.inj hs'
          apply Outcome.of_undefined
          rw [hl, Bool.or_eq_false_iff]
          exact ⟨Bool.eq_false_iff.mpr hnull, decide_eq_false hne⟩
    · next hhandler =>
      obtain rfl := Option.some.inj hs'
      apply Outcome.of_undefined
      rw [hl, hhandler]
      rfl
  · cases hs'

/-- The lambda for all other messages puts them off through `self`. -/
theorem receive_message_outcome (hk : Known s) (h : OneToOne s)
    (hs' : s.receive_message = some s') : Outcome s .receive_message s' := by
  rw [State.receive_message] at hs'
  split at hs'
  · next o id rest hstack =>
    have hl : careful s .receive_message = s.has_self o := by rw [careful, hstack]
    split at hs'
    · next hself =>
      obtain rfl := Option.some.inj hs'
      exact Unconcerned.outcome ⟨rfl, rfl, rfl, fun _ => .rfl, rfl⟩ hk h (hl.trans hself) rfl
    · next hnull =>
      obtain rfl := Option.some.inj hs'
      exact .of_undefined (hl.trans (Bool.eq_false_iff.mpr hnull))
  · cases hs'

/-- A callback may do anything, but to begin it does nothing. -/
theorem call_back_outcome (hk : Known s) (h : OneToOne s) (hs' : s.call_back = some s') :
    Outcome s .call_back s' := by
  rw [State.call_back] at hs'
  split at hs'
  · cases hs'
  · obtain rfl := Option.some.inj hs'
    exact (unconcerned_stack (.callback :: s.stack) rfl).outcome hk h rfl rfl
  · cases hs'

/-! ### The end of an `on_reply` -/

/-- After a stored response: `erase(iter)`. -/
theorem stored_returns_outcome (hk : Known s) (h : OneToOne s) {o id generation : Nat}
    {rest : List Frame} (hstack : s.stack = .stored o id generation :: rest)
    (hself : s.has_self o = true) (hiter : s.iter_valid id generation = true) :
    Outcome s .returns { (s.erase id).release o with stack := rest } := by
  have hkey : s.unfinished_requests id ≠ none := by
    rw [State.iter_valid, Bool.and_eq_true] at hiter
    exact Option.isSome_iff_ne_none.mp hiter.2
  have hwaiting : rest.filterMap Frame.waits_for = s.waiting := by
    rw [State.waiting, hstack]
    rfl
  have hl : careful s .returns = true ↔ s.owns o id := by
    rw [careful, hstack]
    simp only [hiter, Bool.and_true, decide_eq_true_eq]
    rfl
  have hown : own_entry s .returns = some id := by rw [own_entry, hstack]
  have hreleased {o' id' : Nat} :
      State.owns { (s.erase id).release o with stack := rest } o' id' ↔
        o' ≠ o ∧ s.owns o' id' :=
    owns_release (s := s.erase id)
  refine ⟨?_, fun _ => ⟨fun {o' h'} hh' => ?_, fun {o' id'} hmem => ?_, ?_⟩, fun _ id' hkey' => ?_⟩
  · rw [hl]
    constructor
    · intro h'
      -- the handler has not been given another request: the entry would have another owner
      obtain ⟨id₂, howns⟩ := has_self_iff.mp hself
      by_contra hnot
      obtain ⟨o', howns', hmem⟩ := (h.keys id).mp hkey
      have hne : o' ≠ o := by
        rintro rfl
        exact hnot howns'
      refine h'.key_of_owner (hreleased.mpr ⟨hne, howns'⟩) ?_ (Function.update_self ..)
      show (o', id) ∉ rest.filterMap Frame.waits_for
      rwa [hwaiting]
    -- the handler still owns the request, and both go together
    · intro howns
      refine ⟨h.defined, fun id' => ?_, fun h₁ h₂ =>
        h.unique (hreleased.mp h₁).2 (hreleased.mp h₂).2⟩
      show Function.update s.unfinished_requests id none id' ≠ none ↔
        ∃ o', _ ∧ (o', id') ∉ rest.filterMap Frame.waits_for
      simp only [hreleased, hwaiting]
      exact h.keys_erase howns id'
  · exact issued_release hk hh'
  · have hmem : (o', id') ∈ s.waiting := hwaiting ▸ hmem
    exact hk.taken_out_erase id hmem
  · show ((rest.filterMap Frame.waits_for).map Prod.snd).Nodup
    rw [hwaiting]
    exact hk.distinct
  · rw [hown]
    exact erased_iff hkey'

/-- The frame on top returns: the handlers of a stored response, those of an awaited one, or a
    callback. -/
theorem returns_outcome (hk : Known s) (h : OneToOne s) (hs' : s.returns = some s') :
    Outcome s .returns s' := by
  rw [State.returns] at hs'
  split at hs'
  · next o id generation rest hstack =>
    split at hs'
    · next hvalid =>
      obtain rfl := Option.some.inj hs'
      obtain ⟨hself, hiter⟩ := Bool.and_eq_true_iff.mp hvalid
      exact stored_returns_outcome hk h hstack hself hiter
    · next hinvalid =>
      obtain rfl := Option.some.inj hs'
      apply Outcome.of_undefined
      rw [careful, hstack]
      apply Bool.eq_false_iff.mpr
      intro hl
      obtain ⟨hdecide, hiter⟩ := Bool.and_eq_true_iff.mp hl
      have howns : s.owns o id := by simpa [State.owns] using hdecide
      exact hinvalid (Bool.and_eq_true_iff.mpr ⟨has_self_iff.mpr ⟨id, howns⟩, hiter⟩)
  -- `self->deactivate()` after the handlers of an awaited response
  · next o id rest hstack =>
    have hl : careful s .returns = s.has_self o := by rw [careful, hstack]
    split at hs'
    · next hself =>
      obtain rfl := Option.some.inj hs'
      apply (unconcerned_stack (.waits o id .done :: rest) _).outcome hk h (hl.trans hself)
      · rw [own_entry, hstack]
      · rw [State.waiting, hstack]
        rfl
    · next hnull =>
      obtain rfl := Option.some.inj hs'
      exact .of_undefined (hl.trans (Bool.eq_false_iff.mpr hnull))
  · next rest hstack =>
    obtain rfl := Option.some.inj hs'
    apply (unconcerned_stack rest _).outcome hk h
    · rw [careful, hstack]
    · rw [own_entry, hstack]
    · rw [State.waiting, hstack]
      rfl
  · cases hs'

/-- `self = nullptr` at the end. The handler must still be one of the waiting ones: if it has got
    another request meanwhile, the entry of that one is left without an owner. -/
theorem on_reply_returns_outcome (hk : Known s) (h : OneToOne s)
    (hs' : s.on_reply_returns = some s') : Outcome s .on_reply_returns s' := by
  rw [State.on_reply_returns] at hs'
  split at hs'
  · next o id rest hstack =>
    have hl : careful s .on_reply_returns = s.awaited o := by rw [careful, hstack]
    have hwaiting : s.waiting = (o, id) :: rest.filterMap Frame.waits_for := by
      rw [State.waiting, hstack]
      rfl
    split at hs'
    · next hself =>
      obtain rfl := Option.some.inj hs'
      have hreleased {o' id' : Nat} :
          State.owns { s.release o with stack := rest } o' id' ↔ o' ≠ o ∧ s.owns o' id' :=
        owns_release (s := s)
      refine ⟨?_, fun _ => ⟨issued_release hk, fun {o' id'} hmem => ?_, ?_⟩, fun _ id' hkey => ?_⟩
      · rw [hl, awaited_iff]
        constructor
        · intro h'
          -- an entry of the handler would be left
          obtain ⟨id', howns⟩ := has_self_iff.mp hself
          refine ⟨id', howns, ?_⟩
          by_contra hnot
          obtain ⟨o', howns', -⟩ := (h'.keys id').mp (h.key_of_owner howns hnot)
          obtain ⟨hne, howns'⟩ := hreleased.mp howns'
          exact hne (h.unique howns' howns)
        -- it gives up the request that it has waited for
        · rintro ⟨id₁, howns, hmem⟩
          refine ⟨h.defined, fun id' => ?_, fun h₁ h₂ =>
            h.unique (hreleased.mp h₁).2 (hreleased.mp h₂).2⟩
          show s.unfinished_requests id' ≠ none ↔
            ∃ o', _ ∧ (o', id') ∉ rest.filterMap Frame.waits_for
          rw [h.keys]
          refine exists_congr fun o' => ?_
          rw [hreleased, hwaiting, List.mem_cons, not_or]
          constructor
          · rintro ⟨howns', hne, hnot⟩
            refine ⟨⟨?_, howns'⟩, hnot⟩
            rintro rfl
            obtain rfl := owns_inj howns howns'
            rw [hwaiting] at hmem
            exact (List.mem_cons.mp hmem).elim hne hnot
          · rintro ⟨⟨hne, howns'⟩, hnot⟩
            exact ⟨howns', fun heq => hne (congrArg Prod.fst heq), hnot⟩
      · exact hk.taken_out (hwaiting ▸ List.mem_cons_of_mem _ hmem)
      · have hdistinct := hk.distinct
        rw [hwaiting] at hdistinct
        exact (List.nodup_cons.mp hdistinct).2
      · refine iff_of_false hkey fun heq => ?_
        cases heq
    · next hnull =>
      obtain rfl := Option.some.inj hs'
      apply Outcome.of_undefined
      rw [hl]
      apply Bool.eq_false_iff.mpr
      intro hawaited
      obtain ⟨id', howns, -⟩ := awaited_iff.mp hawaited
      exact hnull (has_self_iff.mpr ⟨id', howns⟩)
  · cases hs'

/-- An exception leaves an `on_reply` that has taken its entry out. -/
theorem wait_throws_outcome (hk : Known s) (h : OneToOne s) {o id : Nat} {rest : List Frame}
    (hwaiting : s.waiting = (o, id) :: rest.filterMap Frame.waits_for)
    (hl : careful s .throws = decide (s.handlers o ≠ some ⟨true, id⟩)) :
    Outcome s .throws { s with stack := rest } := by
  have hdistinct := hk.distinct
  rw [hwaiting, List.map_cons, List.nodup_cons] at hdistinct
  have hless {o' id' : Nat} (hmem : (o', id') ∈ rest.filterMap Frame.waits_for) :
      (o', id') ∈ s.waiting := hwaiting ▸ List.mem_cons_of_mem _ hmem
  refine ⟨?_, fun _ => ⟨hk.issued, fun hmem => hk.taken_out (hless hmem), hdistinct.2⟩,
    fun _ _ hkey => iff_of_false hkey nofun⟩
  rw [hl, decide_eq_true_eq]
  constructor
  -- the handler would own a request that is neither in the table nor waited for
  · intro h' howns
    have howns : State.owns { s with stack := rest } o id := howns
    refine h'.key_of_owner howns ?_ ?_
    · exact fun hmem => hdistinct.1 (List.mem_map_of_mem (f := Prod.snd) hmem)
    · exact (hk.taken_out (hwaiting ▸ List.mem_cons_self)).2
  · intro hnot
    refine ⟨h.defined, fun id' => ?_, h.unique⟩
    show s.unfinished_requests id' ≠ none ↔
      ∃ o', s.owns o' id' ∧ (o', id') ∉ rest.filterMap Frame.waits_for
    rw [h.keys]
    refine exists_congr fun o' => and_congr_right fun howns => ?_
    rw [hwaiting, List.mem_cons, not_or]
    refine and_iff_right ?_
    rintro heq
    cases heq
    exact hnot howns

/-- An exception of a reply handler or of a callback leaves the `on_reply`. -/
theorem throws_outcome (hk : Known s) (h : OneToOne s) (hs' : s.throws = some s') :
    Outcome s .throws s' := by
  rw [State.throws] at hs'
  split at hs'
  · next o id generation rest hstack =>
    -- the stored response and its entry stay
    obtain rfl := Option.some.inj hs'
    apply (unconcerned_stack rest _).outcome hk h _ rfl
    · rw [State.waiting, hstack]
      rfl
    · rw [careful, hstack]
  · next o id phase rest hstack =>
    obtain rfl := Option.some.inj hs'
    apply wait_throws_outcome hk h
    · rw [State.waiting, hstack]
      rfl
    · rw [careful, hstack]
  · next o id phase rest hstack =>
    obtain rfl := Option.some.inj hs'
    apply wait_throws_outcome hk h
    · rw [State.waiting, hstack]
      rfl
    · rw [careful, hstack]
  · cases hs'

/-! ### Runs -/

/-- **What a step does**, out of a state in which the entries match the owners. -/
theorem step_outcome (hk : Known s) (h : OneToOne s) {l : Label Body}
    (hnext : (system Body).next s l = some s') : Outcome s l s' := by
  simp only [system, h.defined, Bool.false_eq_true, if_false] at hnext
  cases l with
  | request o rehash => exact request_outcome hk h (Option.ite_none_right_eq_some.mp hnext).2
  | move_construct o other =>
    have hs' := (Option.ite_none_right_eq_some.mp hnext).2
    rw [State.move_construct] at hs'
    split at hs'
    · next hd ho hother =>
      obtain rfl := Option.some.inj hs'
      have hne : o ≠ other := by
        rintro rfl
        rw [ho] at hother
        cases hother
      apply take_over_outcome hk h hother _ rfl
      rw [careful, Bool.not_eq_true', ← Bool.not_eq_true, State.listed, ho]
      simp [hne]
    · cases hs'
  | move_assign o other =>
    have hs' := (Option.ite_none_right_eq_some.mp hnext).2
    rw [State.move_assign] at hs'
    split at hs'
    · next ho hother =>
      obtain rfl := Option.some.inj hs'
      apply take_over_outcome hk h hother _ rfl
      simp [careful]
    · cases hs'
  | destroy o => exact destroy_outcome hk h (Option.ite_none_right_eq_some.mp hnext).2
  | on_reply o => exact on_reply_outcome hk h (Option.ite_none_right_eq_some.mp hnext).2
  | store_response req_id response =>
    obtain ⟨-, hs'⟩ := Option.ite_none_right_eq_some.mp hnext
    obtain rfl := Option.some.inj hs'
    exact (unconcerned_store_response s req_id response).outcome hk h rfl rfl
  | receive_response req_id response => exact receive_response_outcome hk h hnext
  | receive_message => exact receive_message_outcome hk h hnext
  | call_back => exact call_back_outcome hk h hnext
  | returns => exact returns_outcome hk h hnext
  | on_reply_returns => exact on_reply_returns_outcome hk h hnext
  | throws => exact throws_outcome hk h hnext

/-- **All along a run the entries match the owners, and each step removes its own entry and no
    other, exactly when all steps are careful.** -/
theorem one_to_one_iff {steps : List (State Body × Label Body)}
    (hrun : Run (system Body) (start Body) steps s) :
    ((∀ t ∈ passes steps s, OneToOne t) ∧ ∀ step ∈ steps, RemovesOwn step.1 step.2) ↔
      ∀ step ∈ steps, careful step.1 step.2 = true := by
  have hknown (s : State Body) (l : Label Body) (s' : State Body) (hk : Known s)
      (h : OneToOne s) (h' : OneToOne s') (hnext : (system Body).next s l = some s') : Known s' :=
    (step_outcome hk h hnext).known h'
  have hiff := hrun.forall_iff_of OneToOne (fun s l => careful s l = true) oneToOne_start
    known_start hknown fun s l s' hk h hnext => (step_outcome hk h hnext).one_to_one
  rw [← hiff]
  refine and_iff_left_of_imp fun hall step hmem => ?_
  have hknown := hrun.forall_known known_start hknown hall
  obtain ⟨s₁, hnext₁, ⟨hk, h⟩, -, h₁⟩ := hrun.forall_steps
    (p := fun t => Known t ∧ OneToOne t) (fun t ht => ⟨hknown t ht, hall t ht⟩) step hmem
  intro s' hnext
  obtain rfl := Option.some.inj (hnext₁.symm.trans hnext)
  exact (step_outcome hk h hnext).removes h₁

/-- Two requests, of which the first is answered early. Its reply handler makes a third one,
    which it gives up, and the second one is moved away and waited for. -/
def nested_requests : List (Label Unit) :=
  [.request 0 false, .request 1 true, .store_response 0 (), .on_reply 0, .request 2 false,
    .destroy 2, .returns, .move_construct 3 1, .on_reply 3, .receive_response 1 (), .returns,
    .on_reply_returns, .destroy 0]

/-- All of them are done then. -/
theorem one_to_one_iff_nested : ∃ steps s, Run (system Unit) (start Unit) steps s ∧
    s.request_id = 3 ∧ (∀ t ∈ passes steps s, OneToOne t) ∧
    ∀ step ∈ steps, RemovesOwn step.1 step.2 := by
  obtain ⟨steps, s, hrun, hcareful, hid⟩ := (system Unit).run_of_exec
    (fun s l => careful s l = true) nested_requests State.request_id
    (show ((system Unit).execVia _ (start Unit) nested_requests).map State.request_id = some 3 by
      decide +kernel)
  exact ⟨steps, s, hrun, hid, (one_to_one_iff hrun).mpr hcareful⟩

/-- The handlers of two requests, the second one moved to the first. -/
def assigned_handlers : Nat → Option RequestHandler :=
  Function.update (Function.update (Function.update (Function.update (fun _ => none)
    0 (some ⟨true, 0⟩)) 1 (some ⟨true, 1⟩)) 0 (some ⟨true, 1⟩)) 1 (some ⟨false, 1⟩)

/-- The entry of the first request has no owner then. -/
theorem not_one_to_one : ¬ ∀ (Body : Type) (steps : List (State Body × Label Body))
    (s : State Body), Run (system Body) (start Body) steps s →
      (∀ t ∈ passes steps s, OneToOne t) ∧ ∀ step ∈ steps, RemovesOwn step.1 step.2 := by
  intro hall
  obtain ⟨steps, s, hrun, -, hobs⟩ := (system Unit).run_of_exec (fun _ _ => True)
    [.request 0 false, .request 1 false, .move_assign 0 1]
    (fun s => (s.unfinished_requests 0, s.handlers))
    (show ((system Unit).execVia _ (start Unit) _).map _ =
      some (some none, assigned_handlers) by rfl)
  obtain ⟨hentry, hhandlers⟩ := Prod.mk.inj hobs
  have h := (hall Unit steps s hrun).1 s (mem_passes_last steps s)
  obtain ⟨o, howns, -⟩ := (h.keys 0).mp (by rw [hentry]; exact Option.some_ne_none _)
  rw [State.owns, hhandlers] at howns
  simp only [assigned_handlers, Function.update_apply] at howns
  split at howns
  · cases howns
  · split at howns <;> cases howns

end ZAF.Requesting

import Mathlib.Data.List.Induction
import ZAF.ActorBehavior.RecvPoll

/-! # Requests to poll are applied once and in order

    In a careful run at most the innermost receive is applying a batch, and nothing changes
    the batch meanwhile. So each round of the loop does to the two vectors what the request
    does to the registry.
-/

namespace ZAF.Polling

open LTS SwapRemove

variable {own : Nat} {s s' : State}

/-! ### Removal -/

/-- `swap` with the last entry unless it is the last one, and `pop_back`. -/
theorem dropLast_swap {α : Type} {xs : List α} {j : Nat} (h : j < xs.length) :
    (if j ≠ xs.length - 1 then swap_with_back xs j else xs).dropLast = swap_remove xs j := by
  split
  · exact dropLast_swap_with_back (List.getElem?_eq_getElem h)
  · next hlast => rw [dropLast_eq_swap_remove, not_not.mp hlast]

/-- The vectors are those of the registry behind the own socket. -/
structure Lists (own : Nat) (s : State) (sockets : List (Nat × Callback)) : Prop where
  items : s.recv_poll_items.map PollItem.socket = own :: sockets.map Prod.fst
  callbacks : s.recv_poll_callbacks = none :: sockets.map Prod.snd

/-- The own socket is in front of both vectors. -/
theorem Lists.length_items {sockets : List (Nat × Callback)} (h : Lists own s sockets) :
    s.recv_poll_items.length = sockets.length + 1 := by
  have hlen := congrArg List.length h.items
  simpa using hlen

theorem Lists.length_callbacks {sockets : List (Nat × Callback)} (h : Lists own s sockets) :
    s.recv_poll_callbacks.length = sockets.length + 1 := by
  simp [h.callbacks]

/-- The search finds what it would find in the registry. -/
theorem Lists.find {sockets : List (Nat × Callback)} (h : Lists own s sockets) (handle : Nat) :
    s.find handle = (sockets.findIdx? fun p => p.1 = handle).map (· + 1) := by
  have hdrop : (s.recv_poll_items.drop 1).map PollItem.socket = sockets.map Prod.fst := by
    rw [List.map_drop, h.items]
    rfl
  have hitems : (s.recv_poll_items.drop 1).findIdx? (fun item => item.socket = handle) =
      ((s.recv_poll_items.drop 1).map PollItem.socket).findIdx? fun x => x = handle := by
    rw [List.findIdx?_map]
    rfl
  rw [State.find, hitems, hdrop, List.findIdx?_map]
  rfl

/-- Both vectors grow at the end, as the registry does. -/
theorem Lists.add {sockets : List (Nat × Callback)} (h : Lists own s sockets) {r : Request}
    (hr : r.add_or_del = true)
    (hitems : s'.recv_poll_items = s.recv_poll_items ++ [⟨r.socket, false⟩])
    (hcallbacks : s'.recv_poll_callbacks = s.recv_poll_callbacks ++ [r.callback]) :
    Lists own s' (register sockets r) := by
  rw [register, if_pos hr]
  constructor
  · rw [hitems, List.map_append, h.items, List.map_append]
    rfl
  · rw [hcallbacks, h.callbacks, List.map_append]
    rfl

/-- The last entry takes the place of the one that is removed, in both vectors and in the
    registry. -/
theorem Lists.remove_at {sockets : List (Nat × Callback)} (h : Lists own s sockets) {r : Request}
    (hr : r.add_or_del = false) {j : Nat} (hfind : s.find r.socket = some j) :
    Lists own (s.remove_at j s.recv_poll_items.length) (register sockets r) := by
  rw [h.find] at hfind
  obtain ⟨i, hi, rfl⟩ := Option.map_eq_some_iff.mp hfind
  -- the index of the source counts the own socket
  have hlt : i < sockets.length := (List.findIdx?_eq_some_iff_getElem.mp hi).1
  rw [register, hr, if_neg Bool.false_ne_true, hi]
  have hitems := h.length_items
  have hcallbacks := h.length_callbacks
  have hne {β : Type} (f : Nat × Callback → β) : sockets.map f ≠ [] := by
    rw [ne_eq, List.map_eq_nil_iff]
    exact List.ne_nil_of_length_pos (by omega)
  constructor
  · have hremoved : (s.remove_at (i + 1) s.recv_poll_items.length).recv_poll_items =
        swap_remove s.recv_poll_items (i + 1) := dropLast_swap (by omega)
    rw [hremoved, map_swap_remove, h.items, swap_remove_cons own (hne Prod.fst), map_swap_remove]
  · have hremoved : (s.remove_at (i + 1) s.recv_poll_items.length).recv_poll_callbacks =
        swap_remove s.recv_poll_callbacks (i + 1) := by
      rw [State.remove_at, hitems, ← hcallbacks]
      exact dropLast_swap (by omega)
    rw [hremoved, h.callbacks, swap_remove_cons none (hne Prod.snd), map_swap_remove]

/-! ### The registry -/

/-- The registry is a fold: a further request is applied to what there is. -/
theorem registry_append (requests : List Request) (r : Request) :
    registry (requests ++ [r]) = register (registry requests) r := by
  rw [registry, registry, List.foldl_append]
  rfl

/-- What is registered has been added. -/
theorem added_of_mem_registry {requests : List Request} {p : Nat × Callback}
    (h : p ∈ registry requests) : ⟨true, p.1, p.2⟩ ∈ requests := by
  -- on the requests in the order in which they were applied
  induction requests using List.reverseRecOn with
  | nil => cases h
  | append_singleton requests r ih =>
    rw [registry_append, register] at h
    split at h
    · next hadd =>
      rcases List.mem_append.mp h with h | h
      · exact List.mem_append_left _ (ih h)
      · rw [List.mem_singleton.mp h, ← hadd]
        exact List.mem_append_right _ (List.mem_singleton_self r)
    · split at h
      · next j hj =>
        obtain ⟨hlt, -⟩ := List.findIdx?_eq_some_iff_getElem.mp hj
        have hperm := swap_remove_perm (List.getElem?_eq_getElem hlt)
        exact List.mem_append_left _ (ih (hperm.subset (List.mem_cons_of_mem _ h)))
      · exact List.mem_append_left _ (ih h)

/-! ### The invariant -/

/-- What is known of the innermost receive while it applies a batch. -/
def State.Applying (s : State) : Prop :=
  match s.stack with
  | .applying k n generation :: _ =>
    k ≤ n ∧ n = s.recv_poll_reqs.length ∧ generation = s.generation
  | .removing r k n generation j m :: _ =>
    n = s.recv_poll_reqs.length ∧ generation = s.generation ∧
      s.recv_poll_reqs[k]? = some r ∧ r.add_or_del = false ∧ r.callback.isSome = true ∧
      s.find r.socket = some j ∧ m = s.recv_poll_items.length
  | _ => True

/-- What another receive may be called by, in a careful run. -/
def Frame.is_open : Frame → Bool
  | .message | .calling _ _ => true
  | _ => false

/-- **The invariant of careful runs.** -/
structure Inv (own : Nat) (s : State) : Prop where
  defined : s.undefined = false
  lists : Lists own s (registry s.applied)
  in_order : s.applied ++ s.pending = s.issued
  called : s.called = s.applied.filter Request.calls_back ++ s.stack.flatMap Frame.calls
  applying : s.Applying
  below : ∀ f ∈ s.stack.tail, f.is_open = true

/-- Only the own socket is polled at first. -/
theorem inv_start (own : Nat) : Inv own (start own) where
  defined := rfl
  lists := ⟨rfl, rfl⟩
  in_order := rfl
  called := rfl
  applying := trivial
  below := nofun

/-- The invariant says what has to be shown of a state. -/
theorem Inv.registered (h : Inv own s) : Registered own s where
  defined := h.defined
  lengths := h.lists.length_items.trans h.lists.length_callbacks.symm
  own_socket := by
    rw [← List.getElem?_map, h.lists.items]
    rfl
  given i item callback hitem hcallback := by
    have hsocket : ((registry s.applied).map Prod.fst)[i]? = some item.socket := by
      have hmap : (s.recv_poll_items.map PollItem.socket)[i + 1]? = some item.socket := by
        rw [List.getElem?_map, hitem]
        rfl
      rwa [h.lists.items] at hmap
    rw [h.lists.callbacks, List.getElem?_cons_succ, List.getElem?_map] at hcallback
    rw [List.getElem?_map] at hsocket
    obtain ⟨p, hp, hfst⟩ := Option.map_eq_some_iff.mp hsocket
    rw [hp] at hcallback
    have hadded := added_of_mem_registry (List.mem_of_getElem? hp)
    rwa [hfst, Option.some.inj hcallback] at hadded
  sequential := by
    have hzip := List.zip_unzip (registry s.applied)
    rw [List.unzip_eq_map] at hzip
    rw [h.lists.items, h.lists.callbacks]
    exact hzip
  in_order := h.in_order
  called := h.called

/-! ### The steps -/

/-- With no batch being applied, all of it is pending. -/
theorem findSome?_open {stack : List Frame} (h : ∀ f ∈ stack, f.is_open = true) :
    stack.findSome? Frame.position = none := by
  rw [List.findSome?_eq_none_iff]
  intro f hf
  have hopen := h f hf
  cases f <;> first | rfl | cases hopen

/-- No removal is calling back then. -/
theorem flatMap_calls_open {stack : List Frame} (h : ∀ f ∈ stack, f.is_open = true) :
    stack.flatMap Frame.calls = [] := by
  rw [List.flatMap_eq_nil_iff]
  intro f hf
  have hopen := h f hf
  cases f <;> first | rfl | cases hopen

/-- What lies below the innermost receive is open. -/
theorem Inv.below_of (h : Inv own s) {f : Frame} {rest : List Frame}
    (hstack : s.stack = f :: rest) : ∀ g ∈ rest, g.is_open = true := by
  have hbelow := h.below
  rwa [hstack] at hbelow

/-- The indices of the loop are in range, and its reference to the batch is valid. -/
theorem Inv.applying_of (h : Inv own s) {k n generation : Nat} {rest : List Frame}
    (hstack : s.stack = .applying k n generation :: rest) :
    k ≤ n ∧ n = s.recv_poll_reqs.length ∧ generation = s.generation := by
  have happlying := h.applying
  rwa [State.Applying, hstack] at happlying

/-- While a batch is applied, no removal has called back that is not applied. -/
theorem Inv.called_applying (h : Inv own s) {k n generation : Nat} {rest : List Frame}
    (hstack : s.stack = .applying k n generation :: rest) :
    s.called = s.applied.filter Request.calls_back := by
  rw [h.called, hstack, List.flatMap_cons, flatMap_calls_open (h.below_of hstack)]
  exact List.append_nil _

/-- Nothing is being applied behind calls that are open. -/
theorem applying_open {t : State} (h : ∀ f ∈ t.stack, f.is_open = true) : t.Applying := by
  rw [State.Applying]
  split
  · next hstack => cases h _ (by rw [hstack]; exact List.mem_cons_self)
  · next hstack => cases h _ (by rw [hstack]; exact List.mem_cons_self)
  · trivial

/-- User code that is not called for a removal runs with no batch being applied. -/
theorem Inv.all_open (h : Inv own s) (huser : s.user_runs = true) (hnot : s.in_removal = false) :
    ∀ f ∈ s.stack, f.is_open = true := by
  have hbelow := h.below
  rw [State.user_runs] at huser
  rw [State.in_removal] at hnot
  split at huser
  · next hstack => simp [hstack]
  · next hstack =>
    rw [hstack] at hnot
    cases hnot
  · next hstack =>
    rw [hstack] at hbelow ⊢
    exact List.forall_mem_cons.mpr ⟨rfl, hbelow⟩
  · next hstack =>
    rw [hstack] at hbelow ⊢
    exact List.forall_mem_cons.mpr ⟨rfl, hbelow⟩
  · cases huser

/-- With no batch being applied, the whole batch is pending. -/
theorem pending_open (h : ∀ f ∈ s.stack, f.is_open = true) : s.pending = s.recv_poll_reqs := by
  rw [State.pending, findSome?_open h]
  rfl

/-- A request is put to the batch. -/
theorem Inv.emplace_back (h : Inv own s) (hopen : ∀ f ∈ s.stack, f.is_open = true) (r : Request)
    (grows : Bool) : Inv own (s.emplace_back r grows) where
  defined := h.defined
  lists := ⟨h.lists.items, h.lists.callbacks⟩
  in_order := by
    have hin_order := h.in_order
    rw [pending_open hopen] at hin_order
    rw [pending_open (s := s.emplace_back r grows) hopen]
    show s.applied ++ (s.recv_poll_reqs ++ [r]) = s.issued ++ [r]
    rw [← hin_order, List.append_assoc]
  called := h.called
  applying := applying_open hopen
  below := h.below

/-- A receive begins: it polls at once, or applies the batch from its first request on. -/
theorem Inv.receive (h : Inv own s) (hopen : ∀ f ∈ s.stack, f.is_open = true) :
    Inv own s.receive where
  defined := h.defined
  lists := ⟨h.lists.items, h.lists.callbacks⟩
  in_order := by
    have hin_order := h.in_order
    rw [pending_open hopen] at hin_order
    have hpending : s.receive.pending = s.recv_poll_reqs := by
      rw [State.pending, State.receive]
      split
      · have hposition : Frame.polling.position = none := rfl
        rw [List.findSome?_cons, hposition, findSome?_open hopen]
        rfl
      · rw [List.findSome?_cons]
        rfl
    rw [hpending]
    exact hin_order
  called := by
    have hcalled := h.called
    rw [flatMap_calls_open hopen] at hcalled
    rw [State.receive, List.flatMap_cons, flatMap_calls_open hopen]
    show s.called = _
    rw [hcalled]
    split <;> rfl
  applying := by
    rw [State.receive]
    split
    · trivial
    · exact ⟨Nat.zero_le _, rfl, rfl⟩
  below := hopen

/-- A step of the innermost receive to a place where it is not applying a batch, or its end. -/
theorem Inv.of_stack (h : Inv own s) {f : Frame} {rest : List Frame} (hstack : s.stack = f :: rest)
    (hposition : f.position = none) {items : List PollItem}
    (hitems : items.map PollItem.socket = s.recv_poll_items.map PollItem.socket)
    {stack : List Frame} (hnew : stack = rest ∨ ∃ g, g.position = none ∧ stack = g :: rest) :
    Inv own { s with recv_poll_items := items, stack := stack } := by
  have hbelow := h.below_of hstack
  have hcalls {g : Frame} (hg : g.position = none) : g.calls = [] := by
    cases g <;> first | rfl | cases hg
  have hpending : s.pending = s.recv_poll_reqs := by
    rw [State.pending, hstack, List.findSome?_cons, hposition, findSome?_open hbelow]
    rfl
  have hcalled : s.called = s.applied.filter Request.calls_back := by
    rw [h.called, hstack, List.flatMap_cons, hcalls hposition, flatMap_calls_open hbelow,
      List.append_nil, List.append_nil]
  have hin_order := h.in_order
  rw [hpending] at hin_order
  -- the receive has returned, or is at its next place
  rcases hnew with rfl | ⟨g, hg, rfl⟩
  · refine ⟨h.defined, ⟨hitems.trans h.lists.items, h.lists.callbacks⟩, ?_, ?_,
      applying_open hbelow, fun f hf => hbelow f (List.mem_of_mem_tail hf)⟩
    · rw [State.pending, findSome?_open hbelow]
      exact hin_order
    · rw [flatMap_calls_open hbelow, List.append_nil]
      exact hcalled
  · refine ⟨h.defined, ⟨hitems.trans h.lists.items, h.lists.callbacks⟩, ?_, ?_, ?_, hbelow⟩
    · rw [State.pending, List.findSome?_cons, hg, findSome?_open hbelow]
      exact hin_order
    · rw [List.flatMap_cons, hcalls hg, flatMap_calls_open hbelow, List.append_nil,
        List.append_nil]
      exact hcalled
    · cases g <;> trivial

/-- The frame of a receive that is applying a batch, and what is pending then. -/
theorem pending_applying {f : Frame} {rest : List Frame} (hstack : s.stack = f :: rest) {k : Nat}
    (hposition : f.position = some k) : s.pending = s.recv_poll_reqs.drop k := by
  rw [State.pending, hstack, List.findSome?_cons, hposition]
  rfl

/-- Request `k` has been applied. -/
theorem Inv.applied (h : Inv own s) {f : Frame} {rest : List Frame} {k : Nat} {r : Request}
    (hstack : s.stack = f :: rest) (hposition : f.position = some k)
    (hr : s.recv_poll_reqs[k]? = some r)
    (hcalled : s.called = (s.applied ++ [r]).filter Request.calls_back) {t : State}
    (hlists : Lists own t (register (registry s.applied) r))
    (hundefined : t.undefined = s.undefined) (happlied : t.applied = s.applied ++ [r])
    (hissued : t.issued = s.issued) (htcalled : t.called = s.called)
    (hgeneration : t.generation = s.generation)
    (hlen : t.recv_poll_reqs.length = s.recv_poll_reqs.length)
    (hreqs : t.recv_poll_reqs.drop (k + 1) = s.recv_poll_reqs.drop (k + 1))
    (htstack : t.stack = .applying (k + 1) s.recv_poll_reqs.length s.generation :: rest) :
    Inv own t := by
  obtain ⟨hlt, hget⟩ := List.getElem?_eq_some_iff.mp hr
  have hbelow := h.below_of hstack
  refine ⟨hundefined.trans h.defined, ?_, ?_, ?_, ?_, ?_⟩
  · rw [happlied, registry_append]
    exact hlists
  · have hin_order := h.in_order
    rw [pending_applying hstack hposition, List.drop_eq_getElem_cons hlt, hget] at hin_order
    rw [pending_applying htstack rfl, hreqs, happlied, hissued, List.append_assoc]
    exact hin_order
  · rw [htcalled, hcalled, happlied, htstack, List.flatMap_cons, flatMap_calls_open hbelow]
    rw [Frame.calls, List.append_nil, List.append_nil]
    · exact nofun
  · rw [State.Applying, htstack]
    exact ⟨hlt, hlen.symm, hgeneration.symm⟩
  · rw [htstack]
    exact hbelow

/-- One turn of the loop over the batch: a socket is added, or one is removed, at once or after
    the callback. -/
theorem Inv.apply_step (h : Inv own s) (hl : careful s .apply = true)
    (hs' : s.apply = some s') : Inv own s' := by
  rw [State.apply] at hs'
  split at hs'
  · next k n generation rest hstack =>
    obtain ⟨-, hn, hgeneration⟩ := h.applying_of hstack
    obtain ⟨hlt, hs'⟩ := Option.ite_none_right_eq_some.mp hs'
    have hbelow := h.below_of hstack
    have hcalled := h.called_applying hstack
    split at hs'
    · next r hr =>
      rw [if_pos hgeneration] at hs'
      obtain rfl := Option.some.inj hs'
      -- a careful step removes a socket that is there
      have hfound : r.add_or_del = true ∨ (s.find r.socket).isSome = true := by
        rw [careful, hstack] at hl
        simpa [hr] using hl
      rw [State.apply_request, hn]
      split
      · next hadd =>
        have hnot : [r].filter Request.calls_back = [] := by
          simp [Request.calls_back, hadd]
        refine h.applied hstack rfl hr ?_ (h.lists.add hadd rfl rfl) rfl rfl rfl rfl rfl
          List.length_set (List.drop_set_of_lt (Nat.lt_succ_self k)) rfl
        rw [List.filter_append, hnot, List.append_nil, hcalled]
      · next hdel =>
        have hdel := Bool.eq_false_iff.mpr hdel
        split
        · next j hj =>
          split
          · next hcallback =>
            -- the callback runs first; the request is still pending
            refine ⟨h.defined, ⟨h.lists.items, h.lists.callbacks⟩, ?_, ?_, ?_, hbelow⟩
            · have hin_order := h.in_order
              rw [pending_applying hstack rfl] at hin_order
              rw [pending_applying (f := .removing ..) rfl rfl]
              exact hin_order
            · rw [List.flatMap_cons, flatMap_calls_open hbelow, List.append_nil]
              show s.called ++ [r] = _
              rw [hcalled]
              rfl
            · exact ⟨rfl, rfl, hr, hdel, hcallback, hj, rfl⟩
          -- nobody is to be told
          · next hcallback =>
            have hnot : [r].filter Request.calls_back = [] := by
              simp [Request.calls_back, hcallback]
            have hlists := h.lists.remove_at hdel hj
            refine h.applied hstack rfl hr ?_ ⟨hlists.items, hlists.callbacks⟩ rfl rfl rfl rfl rfl
              rfl rfl rfl
            rw [List.filter_append, hnot, List.append_nil, hcalled]
        · next hnone =>
          rw [hdel, hnone] at hfound
          simp at hfound
    · next hnone =>
      rw [List.getElem?_eq_none_iff] at hnone
      omega
  · cases hs'

/-- The batch is cleared when its end has been reached. -/
theorem Inv.clear_step (h : Inv own s) (hs' : s.clear = some s') : Inv own s' := by
  rw [State.clear] at hs'
  split at hs'
  · next k n generation rest hstack =>
    obtain ⟨hle, hn, hgeneration⟩ := h.applying_of hstack
    have hbelow := h.below_of hstack
    by_cases hlt : k < n
    · rw [if_pos hlt] at hs'
      cases hs'
    · rw [if_neg hlt, if_pos hgeneration] at hs'
      obtain rfl := Option.some.inj hs'
      refine ⟨h.defined, ⟨h.lists.items, h.lists.callbacks⟩, ?_, ?_, trivial, hbelow⟩
      · -- the batch has been applied to its end
        have hin_order := h.in_order
        rw [pending_applying hstack rfl, List.drop_eq_nil_of_le (by omega)] at hin_order
        rw [State.pending, List.drop_nil]
        exact hin_order
      · have hcalled := h.called
        rw [hstack] at hcalled
        exact hcalled
  · cases hs'

/-- `zmq::poll` sets the flags of the items, and nothing else of them. -/
theorem Inv.poll_step (h : Inv own s) {ready : Option (Nat → Bool)}
    (hs' : s.poll ready = some s') : Inv own s' := by
  rw [State.poll] at hs'
  split at hs'
  · next rest hstack =>
    split at hs'
    · obtain rfl := Option.some.inj hs'
      exact h.of_stack hstack rfl rfl (.inl rfl)
    · next ready =>
      split at hs'
      -- `front()` of no items: there is always the own socket
      · next hempty =>
        have hlen := h.lists.length_items
        rw [hempty] at hlen
        cases hlen
      · next item items hitems =>
        obtain rfl := Option.some.inj hs'
        refine h.of_stack hstack rfl ?_ (.inr ⟨_, ?_, rfl⟩)
        · rw [List.map_map]
          rfl
        · split <;> rfl
  · cases hs'

/-- One turn of the loop over the items, whose bound was read before the first callback. A careful
    step has as many items still. -/
theorem Inv.dispatch_step (h : Inv own s) (hl : careful s .dispatch = true)
    (hs' : s.dispatch = some s') : Inv own s' := by
  rw [State.dispatch] at hs'
  split at hs'
  · next i n rest hstack =>
    split at hs'
    · next hlt =>
      have hbound : i < s.recv_poll_items.length := by
        rw [careful, hstack] at hl
        simpa [Nat.not_le.mpr hlt] using hl
      have hlen := h.lists.length_items
      have hlen' := h.lists.length_callbacks
      split at hs'
      · next item hitem =>
        split at hs'
        · split at hs'
          · obtain rfl := Option.some.inj hs'
            exact h.of_stack hstack rfl rfl (.inr ⟨_, rfl, rfl⟩)
          · obtain rfl := Option.some.inj hs'
            exact h.of_stack hstack rfl rfl (.inl rfl)
          -- there are as many callbacks as items
          · next hnone =>
            rw [List.getElem?_eq_none_iff] at hnone
            omega
        · obtain rfl := Option.some.inj hs'
          exact h.of_stack hstack rfl rfl (.inr ⟨_, rfl, rfl⟩)
      · next hnone =>
        rw [List.getElem?_eq_none_iff] at hnone
        omega
    · obtain rfl := Option.some.inj hs'
      exact h.of_stack hstack rfl rfl (.inl rfl)
  · cases hs'

/-- A callback or the handler of a message returns. After the one for a removal, the entry goes. -/
theorem Inv.returns_step (h : Inv own s) (hs' : s.returns = some s') : Inv own s' := by
  rw [State.returns] at hs'
  split at hs'
  · next r k n generation j m rest hstack =>
    obtain ⟨hn, hgeneration, hr, hdel, hcallback, hfind, hm⟩ :
        n = s.recv_poll_reqs.length ∧ generation = s.generation ∧
        s.recv_poll_reqs[k]? = some r ∧ r.add_or_del = false ∧ r.callback.isSome = true ∧
        s.find r.socket = some j ∧ m = s.recv_poll_items.length := by
      have happlying := h.applying
      rwa [State.Applying, hstack] at happlying
    have hbelow := h.below_of hstack
    -- what has been found before the callback is still there: no other batch has run
    have hj : j < s.recv_poll_items.length ∧ j < s.recv_poll_callbacks.length := by
      have hfound := hfind
      rw [h.lists.find] at hfound
      obtain ⟨i, hi, rfl⟩ := Option.map_eq_some_iff.mp hfound
      have hlt := (List.findIdx?_eq_some_iff_getElem.mp hi).1
      rw [h.lists.length_items, h.lists.length_callbacks]
      exact ⟨Nat.succ_lt_succ hlt, Nat.succ_lt_succ hlt⟩
    rw [if_pos ⟨hgeneration, hj⟩] at hs'
    obtain rfl := Option.some.inj hs'
    rw [hm, hn, hgeneration]
    have hcalls : [r].filter Request.calls_back = [r] := by
      simp [Request.calls_back, hdel, hcallback]
    have hlists := h.lists.remove_at hdel hfind
    refine h.applied hstack rfl hr ?_ ⟨hlists.items, hlists.callbacks⟩ rfl rfl rfl rfl rfl rfl rfl
      rfl
    rw [List.filter_append, hcalls, h.called, hstack, List.flatMap_cons, flatMap_calls_open hbelow]
    rfl
  · next rest hstack =>
    obtain rfl := Option.some.inj hs'
    exact h.of_stack hstack rfl rfl (.inr ⟨_, rfl, rfl⟩)
  · next i n rest hstack =>
    obtain rfl := Option.some.inj hs'
    exact h.of_stack hstack rfl rfl (.inr ⟨_, rfl, rfl⟩)
  · cases hs'

/-- An exception of a handler or of a callback ends the receive. One in the middle of a removal
    would leave the batch half applied: the step is not careful. -/
theorem Inv.throws_step (h : Inv own s) (hl : s.in_removal = false) (hs' : s.throws = some s') :
    Inv own s' := by
  rw [State.throws] at hs'
  split at hs'
  · next hstack =>
    rw [State.in_removal, hstack] at hl
    cases hl
  · next hstack =>
    obtain rfl := Option.some.inj hs'
    exact h.of_stack hstack rfl rfl (.inl rfl)
  · next hstack =>
    obtain rfl := Option.some.inj hs'
    exact h.of_stack hstack rfl rfl (.inl rfl)
  · next hstack =>
    obtain rfl := Option.some.inj hs'
    exact h.of_stack hstack rfl rfl (.inl rfl)
  · cases hs'

/-! ### Runs -/

/-- A careful step keeps the invariant. -/
theorem Inv.step (h : Inv own s) {l : Label} (hl : careful s l = true)
    (hnext : (system own).next s l = some s') : Inv own s' := by
  simp only [system, h.defined, Bool.false_eq_true, if_false] at hnext
  have hnot (hl : (!s.in_removal) = true) : s.in_removal = false := by simpa using hl
  cases l with
  | add_recv_poll socket callback grows =>
    obtain ⟨huser, hs'⟩ := Option.ite_none_right_eq_some.mp hnext
    obtain rfl := Option.some.inj hs'
    cases callback with
    | none => exact h
    | some callback => exact h.emplace_back (h.all_open huser (hnot hl)) _ grows
  | remove_recv_poll socket callback grows =>
    obtain ⟨huser, hs'⟩ := Option.ite_none_right_eq_some.mp hnext
    obtain rfl := Option.some.inj hs'
    exact h.emplace_back (h.all_open huser (hnot hl)) _ grows
  | receive =>
    obtain ⟨huser, hs'⟩ := Option.ite_none_right_eq_some.mp hnext
    obtain rfl := Option.some.inj hs'
    exact h.receive (h.all_open huser (hnot hl))
  | apply => exact h.apply_step hl hnext
  | clear => exact h.clear_step hnext
  | poll ready => exact h.poll_step hnext
  | dispatch => exact h.dispatch_step hl hnext
  | returns => exact h.returns_step hnext
  | throws => exact h.throws_step (hnot hl) hnext

/-- **In a run of careful steps sockets and callbacks are aligned, no index is out of bounds, and
    each request is applied once and in order.** -/
theorem registered_of_careful (own : Nat) {s : State}
    (h : ReachableVia (system own) (fun s l => careful s l = true) s) : Registered own s := by
  apply Inv.registered
  apply h.invariant (Inv own)
  · rintro s rfl
    exact inv_start own
  · intro s l s' h hl hnext
    exact h.step hl hnext

/-- Two sockets are added. The callback of the first one removes itself and adds a third one,
    and receives a message meanwhile. -/
def nested_receive : List Label :=
  [.add_recv_poll 1 (some 10) false, .add_recv_poll 2 (some 20) true, .receive, .apply, .apply,
    .clear, .poll (some fun socket => socket = 1), .dispatch,
    .add_recv_poll 3 (some 30) true, .receive, .apply, .clear,
    .poll (some fun socket => socket = 0), .returns, .dispatch, .dispatch, .dispatch, .dispatch,
    .remove_recv_poll 1 (some 11) true, .returns, .dispatch, .dispatch, .receive, .apply, .returns,
    .clear, .poll none]

/-- In the end the third socket has the place of the first one. -/
theorem registered_of_careful_nested : ∃ s, Registered 0 s ∧
    s.recv_poll_items.map PollItem.socket = [0, 3, 2] ∧
    s.recv_poll_callbacks = [none, some 30, some 20] := by
  obtain ⟨s, hreach, hobs⟩ := (system 0).reachable_of_exec (fun s l => careful s l = true)
    nested_receive (fun s => (s.recv_poll_items.map PollItem.socket, s.recv_poll_callbacks)) rfl
    (show ((system 0).execVia _ (start 0) nested_receive).map _ =
      some ([0, 3, 2], [none, some 30, some 20]) by decide +kernel)
  exact ⟨s, registered_of_careful 0 hreach, congrArg Prod.fst hobs, congrArg Prod.snd hobs⟩

/-- A removal of a socket that is not registered, behind a request that has been applied: the
    batch stays, with an empty callback in it. -/
theorem not_registered : ¬ ∀ (own : Nat) (s : State), Reachable (system own) s →
    Registered own s := by
  intro hall
  obtain ⟨s, hreach, hobs⟩ := (system 0).reachable_of_exec (fun _ _ => True)
    [.add_recv_poll 1 (some 10) false, .remove_recv_poll 2 none false, .receive, .apply, .apply]
    (fun s => (s.applied.length, s.pending.length, s.issued.length)) rfl
    (show ((system 0).execVia _ (start 0) _).map _ = some (2, 2, 2) by decide +kernel)
  obtain ⟨happlied, hobs⟩ := Prod.mk.inj hobs
  obtain ⟨hpending, hissued⟩ := Prod.mk.inj hobs
  have hlength := congrArg List.length (hall 0 s hreach).in_order
  rw [List.length_append] at hlength
  omega

end ZAF.Polling

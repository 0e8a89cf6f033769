import ScaleMetrics.Pod.Requests
import ScaleMetrics.Proofs.Outcome
import ScaleMetrics.Proofs.RunningSums

/-!
# Proofs — Requests

What a pod requests of a resource is the exact sum of what its containers request.

* `foldlM_addRequest_eq_ok_iff`: the sum over some containers is found when each of them requests
  an amount that can be read, and every sum from the left can be held.
* `Pod.request_eq_ok_iff`: so it is for a pod (`Pod.Requests`).
* `Pod.requests_eq_ok_iff`: the requests of some pods are found when those of each pod are, and are
  then the map of them, the last of a name counting.  For pods with distinct names this is a map
  of all of them (`Pod.get?_requests`), in whatever order they are (`Pod.requests_of_perm`).
* `Pod.requests_eq_error_iff`: otherwise the error is about the first container of the first pod
  that does not request an amount that can be read, or whose amount makes a sum that cannot be held
  (`Pod.RequestFault`).
-/

namespace ScaleMetrics

/-! ### Containers -/

/-- The container requests the amount of the resource. -/
def Container.Requests (resource : String) (c : Container) (amount : Milli) : Prop :=
  ∃ quantity, c.request? resource = some quantity ∧ Quantity.milli quantity = .ok amount

theorem Container.requested_eq_ok_iff {c : Container} {resource : String} {amount : Milli} :
    c.requested resource = .ok amount ↔ c.Requests resource amount := by
  rw [Container.requested, Container.Requests]
  cases hrequest : c.request? resource with
  | none => simp
  | some quantity => cases hmilli : Quantity.milli quantity <;> simp [hmilli]

/-- Why what the container requests of the resource is not known. -/
inductive Container.RequestFault (resource : String) (c : Container) : GatherError → Prop where
  | missing : c.request? resource = none → RequestFault resource c (.missingRequest resource)
  | unreadable {quantity : String} {fault : Quantity.Error} :
      c.request? resource = some quantity → Quantity.milli quantity = .error fault →
      RequestFault resource c (.quantity resource quantity fault.message)

theorem Container.requested_eq_error_iff {c : Container} {resource : String} {e : GatherError} :
    c.requested resource = .error e ↔ c.RequestFault resource e := by
  rw [Container.requested]
  cases hrequest : c.request? resource with
  | none =>
      constructor
      · rintro ⟨⟩
        exact .missing hrequest
      · rintro (_ | ⟨hsome, -⟩)
        · rfl
        · cases hrequest.symm.trans hsome
  | some quantity =>
      simp only
      constructor
      · intro h
        split at h
        · cases h
        · next fault hfault =>
            cases h
            exact .unreadable hrequest hfault
      · rintro (hnone | ⟨hsome, hfault⟩)
        · cases hrequest.symm.trans hnone
        · obtain rfl := Option.some.inj (hrequest.symm.trans hsome)
          rw [hfault]

namespace Pod

theorem addRequest_eq_ok_iff {pod : Pod} {resource : String} {sum total : Milli} {c : Container} :
    pod.addRequest resource sum c = .ok total ↔
      ∃ amount, c.Requests resource amount ∧ total.val = sum.val + amount.val := by
  rw [addRequest, bind_eq_ok]
  refine exists_congr fun amount => ?_
  rw [Container.requested_eq_ok_iff, ← Milli.add?_eq_some_iff]
  cases hsum : sum.add? amount <;> simp [pure, Except.pure, throw, throwThe, MonadExceptOf.throw]

theorem addRequest_eq_error_iff {pod : Pod} {resource : String} {sum : Milli} {c : Container}
    {e : GatherError} :
    pod.addRequest resource sum c = .error e ↔
      c.RequestFault resource e ∨
        ∃ amount, c.Requests resource amount ∧ ¬ Milli.Held (sum.val + amount.val) ∧
          e = .overflow (resource ++ " request of pod " ++ pod.name) := by
  rw [addRequest, bind_eq_error, Container.requested_eq_error_iff]
  refine or_congr_right (exists_congr fun amount => ?_)
  rw [Container.requested_eq_ok_iff, ← Milli.add?_eq_none_iff]
  cases hsum : sum.add? amount <;>
    simp [pure, Except.pure, throw, throwThe, MonadExceptOf.throw, eq_comm]

/-- **The sum of some containers**, from the left. -/
theorem foldlM_addRequest_eq_ok_iff {pod : Pod} {resource : String} :
    ∀ {containers : List Container} {sum total : Milli},
      containers.foldlM (pod.addRequest resource) sum = .ok total ↔
        ∃ amounts, List.Forall₂ (Container.Requests resource) containers amounts ∧
          Milli.RunningSumsHeld sum.val amounts ∧ total.val = sum.val + Milli.exactSum amounts
  | [], sum, total => by
      rw [List.foldlM_nil, pure_eq_ok]
      constructor
      · rintro rfl
        exact ⟨[], .nil, Milli.runningSumsHeld_nil_iff.2 sum.held_val, by simp [Milli.exactSum]⟩
      · rintro ⟨amounts, hall, -, htotal⟩
        cases hall
        exact Bounded.ext (by simpa [Milli.exactSum] using htotal.symm)
  | c :: rest, sum, total => by
      rw [List.foldlM_cons, bind_eq_ok]
      constructor
      · rintro ⟨next, hnext, hrest⟩
        obtain ⟨amount, hamount, hval⟩ := addRequest_eq_ok_iff.1 hnext
        obtain ⟨amounts, hall, hheld, htotal⟩ := foldlM_addRequest_eq_ok_iff.1 hrest
        rw [hval] at hheld htotal
        refine ⟨amount :: amounts, .cons hamount hall, Milli.runningSumsHeld_cons.2 hheld, ?_⟩
        rw [htotal, Milli.exactSum_cons, Int.add_assoc]
      · rintro ⟨_, hall, hheld, htotal⟩
        obtain ⟨amount, amounts, hamount, htail, rfl⟩ := List.forall₂_cons_left_iff.1 hall
        -- the first of the running sums is this addition, so it does not overflow
        have hheld := Milli.runningSumsHeld_cons.1 hheld
        obtain ⟨next, hnext⟩ := Milli.exists_add?_of_held hheld.start
        have hval := Milli.add?_eq_some_iff.1 hnext
        refine ⟨next, addRequest_eq_ok_iff.2 ⟨amount, hamount, hval⟩, ?_⟩
        refine foldlM_addRequest_eq_ok_iff.2 ⟨amounts, htail, hval ▸ hheld, ?_⟩
        rw [htotal, hval, Milli.exactSum_cons, Int.add_assoc]

/-- The containers of the pod request amounts of the resource that come to a total, and all sums
on the way to it can be held. -/
def Requests (resource : String) (pod : Pod) (total : Milli) : Prop :=
  ∃ amounts, List.Forall₂ (Container.Requests resource) pod.containers amounts ∧
    Milli.RunningSumsHeld 0 amounts ∧ total.val = Milli.exactSum amounts

theorem request_eq_ok_iff {pod : Pod} {resource : String} {total : Milli} :
    pod.request resource = .ok total ↔ pod.Requests resource total := by
  rw [request, foldlM_addRequest_eq_ok_iff, Requests]
  simp [Milli.zero]

/-- A pod has one total. -/
theorem Requests.unique {pod : Pod} {resource : String} {a b : Milli}
    (ha : pod.Requests resource a) (hb : pod.Requests resource b) : a = b := by
  have h := (request_eq_ok_iff.2 ha).symm.trans (request_eq_ok_iff.2 hb)
  exact Except.ok.inj h

/-- Why what the pod requests of the resource is not known: the amount of some container is not, or
makes a sum that cannot be held, while the containers before it come to a sum. -/
inductive RequestFault (resource : String) (pod : Pod) : GatherError → Prop where
  | container {front : List Container} {c : Container} {rest : List Container}
      {amounts : List Milli} {e : GatherError} :
      pod.containers = front ++ c :: rest →
      List.Forall₂ (Container.Requests resource) front amounts → Milli.RunningSumsHeld 0 amounts →
      c.RequestFault resource e → RequestFault resource pod e
  | overflow {front : List Container} {c : Container} {rest : List Container}
      {amounts : List Milli} {amount : Milli} :
      pod.containers = front ++ c :: rest →
      List.Forall₂ (Container.Requests resource) front amounts → Milli.RunningSumsHeld 0 amounts →
      c.Requests resource amount → ¬ Milli.Held (Milli.exactSum amounts + amount.val) →
      RequestFault resource pod (.overflow (resource ++ " request of pod " ++ pod.name))

theorem exists_front {pod : Pod} {resource : String} {front : List Container}
    {amounts : List Milli} (hall : List.Forall₂ (Container.Requests resource) front amounts)
    (hheld : Milli.RunningSumsHeld 0 amounts) :
    ∃ sum : Milli, sum.val = Milli.exactSum amounts ∧
      front.foldlM (pod.addRequest resource) Milli.zero = .ok sum := by
  have hsum : Milli.Held (Milli.exactSum amounts) := by
    simpa using hheld amounts (List.prefix_refl _)
  refine ⟨⟨Milli.exactSum amounts, hsum.1, hsum.2⟩, rfl, ?_⟩
  exact foldlM_addRequest_eq_ok_iff.2 ⟨amounts, hall, hheld, (Int.zero_add _).symm⟩

theorem request_eq_error_iff {pod : Pod} {resource : String} {e : GatherError} :
    pod.request resource = .error e ↔ pod.RequestFault resource e := by
  rw [request, foldlM_eq_error_iff]
  constructor
  · rintro ⟨front, c, rest, sum, hcontainers, hfront, hc⟩
    obtain ⟨amounts, hall, hheld, hsum⟩ := foldlM_addRequest_eq_ok_iff.1 hfront
    rw [Milli.zero, Int.zero_add] at hsum
    rcases addRequest_eq_error_iff.1 hc with hfault | ⟨amount, hamount, hover, rfl⟩
    · exact .container hcontainers hall hheld hfault
    · exact .overflow hcontainers hall hheld hamount (hsum ▸ hover)
  · intro h
    cases h with
    | @container front c rest amounts e hcontainers hall hheld hfault =>
        obtain ⟨sum, hsum, hfront⟩ := exists_front hall hheld
        exact ⟨front, c, rest, sum, hcontainers, hfront, addRequest_eq_error_iff.2 (.inl hfault)⟩
    | @overflow front c rest amounts amount hcontainers hall hheld hamount hover =>
        obtain ⟨sum, hsum, hfront⟩ := exists_front hall hheld
        exact ⟨front, c, rest, sum, hcontainers, hfront,
          addRequest_eq_error_iff.2 (.inr ⟨amount, hamount, hsum ▸ hover, rfl⟩)⟩

/-! ### Lists of pods -/

/-- The entry is what the pod requests, under its name. -/
def Entry (resource : String) (pod : Pod) (entry : String × Milli) : Prop :=
  entry.1 = pod.name ∧ pod.Requests resource entry.2

/-- **The requests of some pods**, from the left. -/
theorem foldlM_insert_eq_ok_iff {resource : String} :
    ∀ {pods : List Pod} {start sums : Dict Milli},
      pods.foldlM (fun sums pod => do return sums.insert pod.name (← pod.request resource)) start =
          .ok sums ↔
        ∃ entries, List.Forall₂ (Entry resource) pods entries ∧
          sums = entries.foldl (fun d (key, value) => d.insert key value) start
  | [], start, sums => by
      rw [List.foldlM_nil, pure_eq_ok]
      constructor
      · rintro rfl
        exact ⟨[], .nil, rfl⟩
      · rintro ⟨entries, hall, rfl⟩
        cases hall
        rfl
  | pod :: rest, start, sums => by
      rw [List.foldlM_cons, bind_eq_ok]
      constructor
      · rintro ⟨next, hnext, hrest⟩
        -- the map after the head is the start with the head's entry
        obtain ⟨total, htotal, hinsert⟩ := bind_eq_ok.1 hnext
        obtain ⟨entries, hall, rfl⟩ := foldlM_insert_eq_ok_iff.1 hrest
        refine ⟨(pod.name, total) :: entries, .cons ⟨rfl, request_eq_ok_iff.1 htotal⟩ hall, ?_⟩
        rw [List.foldl_cons, ← pure_eq_ok.1 hinsert]
      · rintro ⟨_, hall, rfl⟩
        obtain ⟨⟨name, total⟩, entries, ⟨hname, htotal⟩, htail, rfl⟩ :=
          List.forall₂_cons_left_iff.1 hall
        refine ⟨start.insert pod.name total,
          bind_eq_ok.2 ⟨total, request_eq_ok_iff.2 htotal, rfl⟩, ?_⟩
        refine foldlM_insert_eq_ok_iff.2 ⟨entries, htail, ?_⟩
        rw [List.foldl_cons, ← hname]

theorem requests_eq_ok_iff {pods : List Pod} {resource : String} {sums : Dict Milli} :
    Pod.requests pods resource = .ok sums ↔
      ∃ entries, List.Forall₂ (Entry resource) pods entries ∧ sums = Dict.ofList entries :=
  foldlM_insert_eq_ok_iff

/-- The requests of some pods are found when those of each pod are. -/
theorem exists_requests_iff {pods : List Pod} {resource : String} :
    (∃ sums, Pod.requests pods resource = .ok sums) ↔
      ∀ pod ∈ pods, ∃ total, pod.Requests resource total := by
  have hentry : ∀ pod : Pod, (∃ entry, Entry resource pod entry) ↔
      ∃ total, pod.Requests resource total := by
    intro pod
    constructor
    · rintro ⟨entry, -, htotal⟩
      exact ⟨entry.2, htotal⟩
    · rintro ⟨total, htotal⟩
      exact ⟨(pod.name, total), rfl, htotal⟩
  simp only [requests_eq_ok_iff, ← hentry, ← exists_forall₂_iff]
  constructor
  · rintro ⟨-, entries, hall, -⟩
    exact ⟨entries, hall⟩
  · rintro ⟨entries, hall⟩
    exact ⟨_, entries, hall, rfl⟩

/-- The requests of some pods are not found when those of one pod are not; the first such pod is
the one that is reported. -/
theorem requests_eq_error_iff {pods : List Pod} {resource : String} {e : GatherError} :
    Pod.requests pods resource = .error e ↔
      ∃ front pod rest, pods = front ++ pod :: rest ∧
        (∀ before ∈ front, ∃ total, before.Requests resource total) ∧
        pod.RequestFault resource e := by
  rw [requests, foldlM_eq_error_iff]
  constructor
  · rintro ⟨front, pod, rest, sums, hpods, hfront, hpod⟩
    refine ⟨front, pod, rest, hpods, exists_requests_iff.1 ⟨sums, hfront⟩, ?_⟩
    rcases bind_eq_error.1 hpod with hfault | ⟨total, -, hinsert⟩
    · exact request_eq_error_iff.1 hfault
    · cases hinsert
  · rintro ⟨front, pod, rest, hpods, hfront, hfault⟩
    obtain ⟨sums, hsums⟩ := exists_requests_iff.2 hfront
    exact ⟨front, pod, rest, sums, hpods, hsums,
      bind_eq_error.2 (.inl (request_eq_error_iff.2 hfault))⟩

theorem map_fst_of_entries {resource : String} {pods : List Pod} {entries : List (String × Milli)}
    (h : List.Forall₂ (Entry resource) pods entries) :
    entries.map (·.1) = pods.map Pod.name := by
  induction h with
  | nil => rfl
  | cons hentry _ ih => rw [List.map_cons, List.map_cons, hentry.1, ih]

/-- Pods with distinct names all have their requests in the map. -/
theorem get?_requests {pods : List Pod} {resource : String} {sums : Dict Milli}
    (h : Pod.requests pods resource = .ok sums) (hn : (pods.map Pod.name).Nodup) (name : String)
    (total : Milli) :
    sums.get? name = some total ↔ ∃ pod ∈ pods, pod.name = name ∧ pod.Requests resource total := by
  obtain ⟨entries, hall, rfl⟩ := requests_eq_ok_iff.1 h
  rw [Dict.get?_ofList_of_nodup (by rwa [map_fst_of_entries hall])]
  constructor
  · intro hentry
    obtain ⟨pod, hmem, hname, htotal⟩ := exists_of_mem_right hall hentry
    exact ⟨pod, hmem, hname.symm, htotal⟩
  · rintro ⟨pod, hmem, rfl, htotal⟩
    obtain ⟨⟨name, found⟩, hentry, hname, hfound⟩ := exists_of_mem_left hall hmem
    obtain rfl : name = pod.name := hname
    obtain rfl : found = total := hfound.unique htotal
    exact hentry

/-- **Pods with distinct names have their requests in any order of them.** -/
theorem requests_of_perm {pods others : List Pod} {resource : String} {sums : Dict Milli}
    (h : Pod.requests pods resource = .ok sums) (hperm : pods.Perm others)
    (hn : (pods.map Pod.name).Nodup) : Pod.requests others resource = .ok sums := by
  obtain ⟨found, hfound⟩ := exists_requests_iff.2 fun pod hmem =>
    exists_requests_iff.1 ⟨sums, h⟩ pod (hperm.mem_iff.2 hmem)
  have hn' : (others.map Pod.name).Nodup := (hperm.map Pod.name).nodup_iff.1 hn
  have hsame : found = sums := Dict.ext_get? fun name => Option.ext fun total => by
    rw [get?_requests hfound hn', get?_requests h hn]
    exact exists_congr fun pod => and_congr_left fun _ => hperm.mem_iff.symm
  rw [← hsame]
  exact hfound

end Pod

end ScaleMetrics

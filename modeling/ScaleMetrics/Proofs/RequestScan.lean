import ScaleMetrics.Proofs.Requests

/-!
# Proofs — RequestScan

The requests of some pods as one scan over their containers.

`Pod.visits` lists the containers of all pods in the order in which they are added up, each with
the containers of its pod before it.  A visit is at fault (`Visit.Fault`) when its container
requests nothing that can be read, or when its amount makes a sum that cannot be held.

* `requests_eq_error_iff_visit`: the requests end in an error exactly when some visit is at fault,
  and the error is that of the first such visit.
* `get?_requests_eq_some_iff`: otherwise each name has what the last pod of the name requests.
* `request_overflows_iff`: amounts that are not negative overflow exactly when their sum does.
* `requests_exact_or_refused` puts the three together.
-/

namespace ScaleMetrics

/-- A container requests one amount of a resource. -/
theorem Container.rightUnique_requests (resource : String) :
    Relator.RightUnique (Container.Requests resource) := by
  rintro c a b ⟨quantity, hrequest, hmilli⟩ ⟨quantity', hrequest', hmilli'⟩
  obtain rfl := Option.some.inj (hrequest.symm.trans hrequest')
  exact Except.ok.inj (hmilli.symm.trans hmilli')

namespace Pod

/-! ### Visits -/

/-- One container in the order of the scan, with the containers of its pod before it. -/
structure Visit where
  pod : Pod
  before : List Container
  container : Container

/-- Why the scan cannot go on after a visit. -/
inductive Visit.Fault (resource : String) (v : Visit) : GatherError → Prop where
  | container {e : GatherError} : v.container.RequestFault resource e → Fault resource v e
  | overflow {amounts : List Milli} {amount : Milli} :
      List.Forall₂ (Container.Requests resource) v.before amounts →
      v.container.Requests resource amount →
      ¬ Milli.Held (Milli.exactSum amounts + amount.val) →
      Fault resource v (.overflow (resource ++ " request of pod " ++ v.pod.name))

/-- The scan cannot go on after the visit. -/
def Visit.Faulty (resource : String) (v : Visit) : Prop :=
  ∃ e, v.Fault resource e

/-- The visits of some containers of a pod, after those before them. -/
def visitsAfter (pod : Pod) (before : List Container) : List Container → List Visit
  | [] => []
  | c :: rest => ⟨pod, before, c⟩ :: pod.visitsAfter (before ++ [c]) rest

/-- The visits of all containers of some pods, in order. -/
def visits (pods : List Pod) : List Visit :=
  pods.flatMap fun pod => pod.visitsAfter [] pod.containers

variable {pod : Pod} {pods : List Pod} {resource : String} {before : List Container}
  {c : Container} {amounts : List Milli} {sum : Milli} {e : GatherError}

theorem mem_visitsAfter_iff {containers : List Container} {v : Visit} :
    v ∈ pod.visitsAfter before containers ↔
      v.pod = pod ∧ ∃ front rest, containers = front ++ v.container :: rest ∧
        v.before = before ++ front := by
  induction containers generalizing before with
  | nil => simp [visitsAfter]
  | cons c containers ih =>
      rw [visitsAfter, List.mem_cons, ih]
      constructor
      · rintro (rfl | ⟨hpod, front, rest, rfl, hbefore⟩)
        · exact ⟨rfl, [], containers, rfl, (List.append_nil _).symm⟩
        · exact ⟨hpod, c :: front, rest, rfl, by rw [hbefore, List.append_assoc]; rfl⟩
      · rintro ⟨hpod, front, rest, hcontainers, hbefore⟩
        obtain ⟨pod', before', c'⟩ := v
        cases front with
        | nil =>
            cases hcontainers
            rw [List.append_nil] at hbefore
            obtain rfl : pod' = pod := hpod
            obtain rfl : before' = before := hbefore
            exact .inl rfl
        | cons _ front =>
            cases hcontainers
            exact .inr ⟨hpod, front, rest, rfl, by rw [hbefore, List.append_assoc]; rfl⟩

/-- The visits are the containers of the pods, each after those before it. -/
theorem mem_visits_iff {v : Visit} :
    v ∈ visits pods ↔
      v.pod ∈ pods ∧ ∃ rest, v.pod.containers = v.before ++ v.container :: rest := by
  simp only [visits, List.mem_flatMap, mem_visitsAfter_iff, List.nil_append]
  constructor
  · rintro ⟨pod, hmem, rfl, front, rest, hcontainers, rfl⟩
    exact ⟨hmem, rest, hcontainers⟩
  · rintro ⟨hmem, rest, hcontainers⟩
    exact ⟨v.pod, hmem, rfl, v.before, rest, hcontainers, rfl⟩

/-- One step of the sum fails by the fault of its visit. -/
theorem addRequest_eq_error_iff_fault
    (hall : List.Forall₂ (Container.Requests resource) before amounts)
    (hsum : sum.val = Milli.exactSum amounts) :
    pod.addRequest resource sum c = .error e ↔ Visit.Fault resource ⟨pod, before, c⟩ e := by
  rw [addRequest_eq_error_iff]
  constructor
  · rintro (hfault | ⟨amount, hamount, hover, rfl⟩)
    · exact .container hfault
    · exact .overflow hall hamount (hsum ▸ hover)
  · rintro (hfault | ⟨hall', hamount, hover⟩)
    · exact .inl hfault
    · obtain rfl := (Container.rightUnique_requests resource).forall₂ hall hall'
      exact .inr ⟨_, hamount, hsum ▸ hover, rfl⟩

/-- A step without a fault goes on with the amount of its container. -/
theorem exists_addRequest_of_not_faulty
    (hall : List.Forall₂ (Container.Requests resource) before amounts)
    (hsum : sum.val = Milli.exactSum amounts)
    (h : ¬ Visit.Faulty resource ⟨pod, before, c⟩) :
    ∃ next amount, pod.addRequest resource sum c = .ok next ∧
      List.Forall₂ (Container.Requests resource) (before ++ [c]) (amounts ++ [amount]) ∧
      next.val = Milli.exactSum (amounts ++ [amount]) := by
  cases hstep : pod.addRequest resource sum c with
  | error e => exact absurd ⟨e, (addRequest_eq_error_iff_fault hall hsum).1 hstep⟩ h
  | ok next =>
      obtain ⟨amount, hamount, hval⟩ := addRequest_eq_ok_iff.1 hstep
      refine ⟨next, amount, rfl, List.rel_append hall (.cons hamount .nil), ?_⟩
      rw [hval, hsum, Milli.exactSum_append, Milli.exactSum_cons, Milli.exactSum_nil, Int.add_zero]

/-- The sum of the containers of a pod fails by its first visit at fault. -/
theorem foldlM_addRequest_eq_error_iff :
    ∀ {rest before : List Container} {amounts : List Milli} {sum : Milli},
      List.Forall₂ (Container.Requests resource) before amounts →
      sum.val = Milli.exactSum amounts →
      (rest.foldlM (pod.addRequest resource) sum = .error e ↔
        ∃ v, IsFirst (Visit.Faulty resource) (pod.visitsAfter before rest) v ∧ v.Fault resource e)
  | [], before, amounts, sum, _, _ => by
      rw [List.foldlM_nil, visitsAfter]
      simp [not_isFirst_nil, pure, Except.pure]
  | c :: rest, before, amounts, sum, hall, hsum => by
      rw [List.foldlM_cons, visitsAfter, exists_isFirst_cons, bind_eq_error,
        addRequest_eq_error_iff_fault hall hsum]
      refine or_congr ⟨fun hfault => ⟨⟨e, hfault⟩, hfault⟩, fun h => h.2⟩ ?_
      constructor
      · rintro ⟨next, hnext, hrest⟩
        have hgood : ¬ Visit.Faulty resource ⟨pod, before, c⟩ := by
          rintro ⟨e', hfault⟩
          rw [(addRequest_eq_error_iff_fault hall hsum).2 hfault] at hnext
          cases hnext
        obtain ⟨next', amount, hnext', hall', hsum'⟩ :=
          exists_addRequest_of_not_faulty hall hsum hgood
        obtain rfl := Except.ok.inj (hnext.symm.trans hnext')
        exact ⟨hgood, (foldlM_addRequest_eq_error_iff hall' hsum').1 hrest⟩
      · rintro ⟨hgood, hrest⟩
        obtain ⟨next, amount, hnext, hall', hsum'⟩ :=
          exists_addRequest_of_not_faulty hall hsum hgood
        exact ⟨next, hnext, (foldlM_addRequest_eq_error_iff hall' hsum').2 hrest⟩

theorem request_eq_error_iff_visit :
    pod.request resource = .error e ↔
      ∃ v, IsFirst (Visit.Faulty resource) (pod.visitsAfter [] pod.containers) v ∧
        v.Fault resource e :=
  foldlM_addRequest_eq_error_iff .nil rfl

/-- A pod whose visits are without fault has its requests. -/
theorem exists_request_iff :
    (∃ total, pod.request resource = .ok total) ↔
      ∀ v ∈ pod.visitsAfter [] pod.containers, ¬ v.Faulty resource := by
  constructor
  · rintro ⟨total, htotal⟩ v hmem hfaulty
    obtain ⟨first, hfirst⟩ := exists_isFirst_iff.2 ⟨v, hmem, hfaulty⟩
    obtain ⟨e, hfault⟩ := hfirst.holds
    rw [request_eq_error_iff_visit.2 ⟨first, hfirst, hfault⟩] at htotal
    cases htotal
  · intro h
    cases hrequest : pod.request resource with
    | ok total => exact ⟨total, rfl⟩
    | error e =>
        obtain ⟨v, hfirst, -⟩ := request_eq_error_iff_visit.1 hrequest
        exact absurd hfirst.holds (h v hfirst.mem)

/-! ### The scan -/

theorem foldlM_insert_eq_error_iff :
    ∀ {pods : List Pod} {start : Dict Milli},
      pods.foldlM (fun sums pod => do return sums.insert pod.name (← pod.request resource)) start =
          .error e ↔
        ∃ v, IsFirst (Visit.Faulty resource) (visits pods) v ∧ v.Fault resource e
  | [], start => by
      rw [List.foldlM_nil, visits]
      simp [not_isFirst_nil, pure, Except.pure]
  | pod :: rest, start => by
      rw [List.foldlM_cons, visits, List.flatMap_cons, ← visits, exists_isFirst_append,
        bind_eq_error, bind_eq_error, request_eq_error_iff_visit, ← exists_request_iff]
      refine or_congr ?_ ?_
      · -- the insertion itself never fails
        simp [pure, Except.pure]
      · constructor
        · rintro ⟨next, hnext, hrest⟩
          obtain ⟨total, htotal, -⟩ := bind_eq_ok.1 hnext
          exact ⟨⟨total, htotal⟩, foldlM_insert_eq_error_iff.1 hrest⟩
        · rintro ⟨⟨total, htotal⟩, hrest⟩
          exact ⟨start.insert pod.name total, bind_eq_ok.2 ⟨total, htotal, rfl⟩,
            foldlM_insert_eq_error_iff.2 hrest⟩

/-- **The error is that of the first visit at fault.** -/
theorem requests_eq_error_iff_visit :
    Pod.requests pods resource = .error e ↔
      ∃ v, IsFirst (Visit.Faulty resource) (visits pods) v ∧ v.Fault resource e :=
  foldlM_insert_eq_error_iff

/-- The requests are refused when some visit is at fault. -/
theorem exists_requests_error_iff :
    (∃ e, Pod.requests pods resource = .error e) ↔ ∃ v ∈ visits pods, v.Faulty resource := by
  rw [← exists_isFirst_iff]
  constructor
  · rintro ⟨e, he⟩
    obtain ⟨v, hfirst, -⟩ := requests_eq_error_iff_visit.1 he
    exact ⟨v, hfirst⟩
  · rintro ⟨v, hfirst⟩
    obtain ⟨e, hfault⟩ := hfirst.holds
    exact ⟨e, requests_eq_error_iff_visit.2 ⟨v, hfirst, hfault⟩⟩

/-! ### The sums -/

/-- Of the entries of some pods the first of a name is that of the first pod of the name. -/
theorem lookup_entries_eq_some_iff {entries : List (String × Milli)} {name : String}
    {total : Milli} (h : List.Forall₂ (Entry resource) pods entries) :
    entries.lookup name = some total ↔
      ∃ pod, IsFirst (fun pod => pod.name = name) pods pod ∧ pod.Requests resource total := by
  induction h with
  | nil => simp [not_isFirst_nil]
  | @cons pod entry pods entries hentry _ ih =>
      obtain ⟨hname, htotal⟩ := hentry
      rw [exists_isFirst_cons, Dict.lookup_cons_eq, hname]
      by_cases hpod : pod.name = name
      · have hsame : entry.2 = total ↔ pod.Requests resource total :=
          ⟨fun heq => heq ▸ htotal, htotal.unique⟩
        simp [hpod, hsame]
      · simp [hpod, Ne.symm hpod, ih]

/-- **Each name has what the last pod of the name requests.** -/
theorem get?_requests_eq_some_iff {sums : Dict Milli} (h : Pod.requests pods resource = .ok sums)
    {name : String} {total : Milli} :
    sums.get? name = some total ↔
      ∃ pod, IsFirst (fun pod => pod.name = name) pods.reverse pod ∧
        pod.Requests resource total := by
  obtain ⟨entries, hall, rfl⟩ := requests_eq_ok_iff.1 h
  rw [Dict.get?_ofList, lookup_entries_eq_some_iff (List.forall₂_reverse_iff.2 hall)]

/-- The sums of some pods, by name. -/
structure Sums (resource : String) (pods : List Pod) (sums : Dict Milli) : Prop where
  keys : ∀ name, name ∈ sums.keys ↔ ∃ pod ∈ pods, pod.name = name
  /-- The last pod of a name has the exact sum of what its containers request. -/
  total : ∀ name pod, IsFirst (fun pod => pod.name = name) pods.reverse pod →
    ∃ amounts total, List.Forall₂ (Container.Requests resource) pod.containers amounts ∧
      total.val = Milli.exactSum amounts ∧ sums.get? name = some total
  /-- Without containers this is nothing. -/
  bare : ∀ name pod, IsFirst (fun pod => pod.name = name) pods.reverse pod →
    pod.containers = [] → sums.get? name = some .zero

theorem sums_requests {sums : Dict Milli} (h : Pod.requests pods resource = .ok sums) :
    Sums resource pods sums := by
  have hlast : ∀ name pod, IsFirst (fun pod => pod.name = name) pods.reverse pod →
      ∃ total, pod.Requests resource total ∧ sums.get? name = some total := by
    intro name pod hpod
    have hmem : pod ∈ pods := List.mem_reverse.1 hpod.mem
    obtain ⟨total, htotal⟩ := exists_requests_iff.1 ⟨sums, h⟩ pod hmem
    exact ⟨total, htotal, (get?_requests_eq_some_iff h).2 ⟨pod, hpod, htotal⟩⟩
  refine ⟨fun name => ?_, fun name pod hpod => ?_, fun name pod hpod hnone => ?_⟩
  · rw [Dict.mem_keys]
    constructor
    · rintro ⟨total, htotal⟩
      obtain ⟨pod, hpod, -⟩ := (get?_requests_eq_some_iff h).1 htotal
      exact ⟨pod, List.mem_reverse.1 hpod.mem, hpod.holds⟩
    · intro hnamed
      have hnamed' : ∃ pod ∈ pods.reverse, pod.name = name := by simpa using hnamed
      obtain ⟨last, hpod⟩ := exists_isFirst_iff.2 hnamed'
      obtain ⟨total, -, htotal⟩ := hlast name last hpod
      exact ⟨total, htotal⟩
  · obtain ⟨total, ⟨amounts, hall, -, hval⟩, htotal⟩ := hlast name pod hpod
    exact ⟨amounts, total, hall, hval, htotal⟩
  · obtain ⟨total, ⟨amounts, hall, -, hval⟩, htotal⟩ := hlast name pod hpod
    rw [hnone, List.forall₂_nil_left_iff] at hall
    subst hall
    have hzero : total = .zero := Bounded.ext hval
    rw [htotal, hzero]

/-! ### Amounts that are not negative -/

/-- The amounts of containers that all request one overflow or come to a sum. -/
theorem foldlM_addRequest_of_amounts {containers : List Container}
    (hall : List.Forall₂ (Container.Requests resource) containers amounts)
    (h : containers.foldlM (pod.addRequest resource) .zero = .error e) :
    ¬ Milli.RunningSumsHeld 0 amounts ∧
      e = .overflow (resource ++ " request of pod " ++ pod.name) := by
  refine ⟨fun hheld => ?_, ?_⟩
  · have hfront : ∃ sum : Milli, sum.val = Milli.exactSum amounts ∧
        containers.foldlM (pod.addRequest resource) .zero = .ok sum := exists_front hall hheld
    obtain ⟨sum, -, hsum⟩ := hfront
    rw [hsum] at h
    cases h
  · obtain ⟨front, c, rest, sum, rfl, -, hc⟩ := foldlM_eq_error_iff.1 h
    have hmem : c ∈ front ++ c :: rest := List.mem_append_right _ List.mem_cons_self
    obtain ⟨amount, -, hamount⟩ := exists_of_mem_left hall hmem
    rcases addRequest_eq_error_iff.1 hc with hfault | ⟨-, -, -, rfl⟩
    · rw [← Container.requested_eq_error_iff, Container.requested_eq_ok_iff.2 hamount] at hfault
      cases hfault
    · rfl

/-- The amounts that the containers of the pod request, up to the first container that requests
none that can be read. -/
def RequestsFromLeft (resource : String) (pod : Pod) (amounts : List Milli) : Prop :=
  ∃ front rest, pod.containers = front ++ rest ∧
    List.Forall₂ (Container.Requests resource) front amounts ∧
    ∀ c ∈ rest.head?, ∀ amount, ¬ c.Requests resource amount

/-- A container without an amount that can be read is no overflow. -/
theorem addRequest_ne_overflow (h : ∀ amount, ¬ c.Requests resource amount) {message : String} :
    pod.addRequest resource sum c ≠ .error (.overflow message) := by
  intro hstep
  rcases addRequest_eq_error_iff.1 hstep with hfault | ⟨amount, hamount, -⟩
  · cases hfault
  · exact h amount hamount

/-- A pod overflows when some sum of the amounts from the left does. -/
theorem request_overflows_iff_running (h : pod.RequestsFromLeft resource amounts) :
    pod.request resource = .error (.overflow (resource ++ " request of pod " ++ pod.name)) ↔
      ¬ Milli.RunningSumsHeld 0 amounts := by
  obtain ⟨front, rest, hcontainers, hall, hrest⟩ := h
  rw [request, hcontainers, List.foldlM_append, bind_eq_error]
  constructor
  · rintro (hfront | ⟨sum, -, hover⟩)
    · exact (foldlM_addRequest_of_amounts hall hfront).1
    · cases rest with
      | nil => cases hover
      | cons c rest =>
          have hc : ∀ amount, ¬ c.Requests resource amount := hrest c rfl
          rw [List.foldlM_cons, bind_eq_error] at hover
          rcases hover with hstep | ⟨next, hnext, -⟩
          · exact absurd hstep (addRequest_ne_overflow hc)
          · obtain ⟨amount, hamount, -⟩ := addRequest_eq_ok_iff.1 hnext
            exact absurd hamount (hc amount)
  · intro hover
    left
    cases hfront : front.foldlM (pod.addRequest resource) .zero with
    | error e => rw [(foldlM_addRequest_of_amounts hall hfront).2]
    | ok sum =>
        obtain ⟨amounts', hall', hheld, -⟩ := foldlM_addRequest_eq_ok_iff.1 hfront
        obtain rfl := (Container.rightUnique_requests resource).forall₂ hall hall'
        exact absurd hheld hover

/-- **Amounts that are not negative overflow exactly when their sum does.** -/
theorem request_overflows_iff (h : pod.RequestsFromLeft resource amounts)
    (hpos : ∀ a ∈ amounts, 0 ≤ a.val) :
    pod.request resource = .error (.overflow (resource ++ " request of pod " ++ pod.name)) ↔
      0x7fffffffffffffff < Milli.exactSum amounts := by
  have htotal := Milli.exactSum_nonneg hpos
  rw [request_overflows_iff_running h, Milli.runningSumsHeld_iff_of_sign (.inl hpos), Milli.Held]
  omega

/-- **Requests are exact or refused.**  Either every name has the exact sum of the last pod of the
name, or the error is that of the first container at fault; and amounts that are not negative
overflow for no other reason than their sum. -/
theorem requests_exact_or_refused (pods : List Pod) (resource : String) :
    (∀ sums, Pod.requests pods resource = .ok sums → Sums resource pods sums) ∧
    ((∃ e, Pod.requests pods resource = .error e) ↔
      ∃ pod ∈ pods, ∃ before c rest, pod.containers = before ++ c :: rest ∧
        Visit.Faulty resource ⟨pod, before, c⟩) ∧
    (∀ e, Pod.requests pods resource = .error e ↔
      ∃ v, IsFirst (Visit.Faulty resource) (visits pods) v ∧ v.Fault resource e) ∧
    ∀ pod amounts, RequestsFromLeft resource pod amounts → (∀ a ∈ amounts, 0 ≤ a.val) →
      (pod.request resource = .error (.overflow (resource ++ " request of pod " ++ pod.name)) ↔
        0x7fffffffffffffff < Milli.exactSum amounts) := by
  refine ⟨fun sums => sums_requests, ?_, fun e => requests_eq_error_iff_visit,
    fun pod amounts => request_overflows_iff⟩
  rw [exists_requests_error_iff]
  constructor
  · rintro ⟨v, hmem, hfaulty⟩
    obtain ⟨hpod, rest, hcontainers⟩ := mem_visits_iff.1 hmem
    exact ⟨v.pod, hpod, v.before, v.container, rest, hcontainers, hfaulty⟩
  · rintro ⟨pod, hpod, before, c, rest, hcontainers, hfaulty⟩
    exact ⟨⟨pod, before, c⟩, mem_visits_iff.2 ⟨hpod, rest, hcontainers⟩, hfaulty⟩

/-! ### Pods that share a name, and a pod that requests too much -/

/-- A pod whose containers request these amounts of processor time. -/
def requestingCpu (name : String) (quantities : List String) : Pod where
  metadata := ⟨none, none, none, some name, none, []⟩
  spec := some ⟨quantities.map fun quantity =>
    ⟨"main", some ⟨none, some (.ofList [("cpu", quantity)]), []⟩, []⟩, []⟩
  status := none

/-- Two pods of one name, and one without containers between them. -/
def sharedName : List Pod :=
  [requestingCpu "web" ["500m", "2"], requestingCpu "idle" [],
    requestingCpu "web" ["1500m", "-500m"]]

/-- A pod that requests as much as can be held, and then a little more. -/
def greedy : Pod :=
  requestingCpu "greedy" ["9223372036854775807m", "1m"]

theorem requests_exact_or_refused_greedy :
    (∃ sums, Pod.requests sharedName "cpu" = .ok sums ∧ Sums "cpu" sharedName sums ∧
      (sums.get? "web").map (·.val) = some 1000) ∧
    (∃ e, Pod.requests (sharedName ++ [greedy]) "cpu" = .error e) ∧
    ∃ amounts, RequestsFromLeft "cpu" greedy amounts ∧ (∀ a ∈ amounts, 0 ≤ a.val) ∧
      greedy.request "cpu" = .error (.overflow "cpu request of pod greedy") := by
  obtain ⟨hsums, -⟩ := requests_exact_or_refused sharedName "cpu"
  obtain ⟨-, hrefused, -, hover⟩ := requests_exact_or_refused (sharedName ++ [greedy]) "cpu"
  obtain ⟨most, little, hall, hmost, hlittle⟩ : ∃ most little : Milli,
      List.Forall₂ (Container.Requests "cpu") greedy.containers [most, little] ∧
        most.val = 0x7fffffffffffffff ∧ little.val = 1 :=
    ⟨_, _, .cons ⟨_, rfl, rfl⟩ (.cons ⟨_, rfl, rfl⟩ .nil), rfl, rfl⟩
  have hleft : RequestsFromLeft "cpu" greedy [most, little] :=
    ⟨_, [], (List.append_nil _).symm, hall, by simp⟩
  have hpos : ∀ a ∈ [most, little], 0 ≤ a.val := by simp [hmost, hlittle]
  have hsum : 0x7fffffffffffffff < Milli.exactSum [most, little] := by
    simp [Milli.exactSum, hmost, hlittle]
  refine ⟨⟨_, rfl, hsums _ rfl, rfl⟩, hrefused.2 ?_, [most, little], hleft, hpos,
    (hover greedy [most, little] hleft hpos).2 hsum⟩
  exact ⟨greedy, by simp, [_], _, [], rfl, _,
    .overflow (.cons ⟨_, rfl, rfl⟩ .nil) ⟨_, rfl, rfl⟩ (by unfold Milli.Held; decide)⟩

end Pod

end ScaleMetrics

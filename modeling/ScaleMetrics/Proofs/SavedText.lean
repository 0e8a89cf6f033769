import ScaleMetrics.Proofs.KeptLeaves
import ScaleMetrics.Proofs.Printed

/-!
# Proofs — Saved texts

The text of a snapshot that is saved again is the text of the same snapshot
(`Snapshot.saved_text_again`), if the floating-point numbers that are kept in it are read back from
their own texts.

A numeral is not always read as the double next to it, so the shortest text of a double may be read
as a neighbour of it.  A snapshot keeps doubles only in parts that it does not understand; but an
error about the selector of an object of another kind names what it has found, and after one save
it can name another number (`Snapshot.saved_text_drifts`).
-/

namespace ScaleMetrics

namespace Json

/-- A leaf that is read back from its own text, if it is a floating-point number. -/
def RealReread : Json → Prop
  | .number (.real x) => (Number.real x).reread? = some (.real x)
  | _ => True

instance : DecidablePred RealReread
  | .number (.real x) => inferInstanceAs (Decidable ((Number.real x).reread? = some (.real x)))
  | .number (.int _) | .null | .bool _ | .string _ | .array _ | .object _ | .broken =>
      inferInstanceAs (Decidable True)

/-- What is sound is read back, but for floating-point numbers. -/
theorem Sound.reread {leaf : Json} (h : leaf.Sound) (hreal : leaf.RealReread) : leaf.Reread := by
  obtain ⟨hheld, hbroken⟩ := h
  cases leaf with
  | number n =>
      cases n with
      | int n => exact reread?_int hheld.1 hheld.2
      | real x => exact hreal
  | broken => exact hbroken rfl
  | _ => trivial

end Json

open Json

namespace Snapshot

variable {s : Snapshot} {text : String}

/-- The document of the workload in the text of a snapshot. -/
def workloadIn? (text : String) : Option Json :=
  (read? text).bind workloadAt?

theorem ofText_eq_ok : ofText text = .ok s ↔
    ∃ document, read? text = some document ∧ ofJson document = .ok s := by
  rw [ofText]
  cases read? text with
  | none => simp
  | some document => simp [mapError_eq_ok]

/-- The text of a sound document is read as the document. -/
theorem ofText_render {document : Json} (hsound : document.All Sound)
    (hreal : document.All RealReread) (h : ofJson document = .ok s) :
    ofText document.render = .ok s :=
  ofText_eq_ok.2
    ⟨document, read?_render (.imp₂ (fun _ => Sound.reread) hsound hreal), h⟩

/-- **A snapshot that was read from a text is read back from what is written for it**: from the
document, with the members in the order of the writer or sorted, and from the text of either
document, if each floating-point number that is kept is read back from its own text. -/
theorem saved_text_again (h : ofText text = .ok s)
    (hversion : ∀ d ∈ workloadIn? text, Workload.VersionIsText d)
    (hwhole : s.WholeTimes) :
    ofJson s.toJson = .ok s ∧ ofJson s.toJson.canonical = .ok s ∧
      (s.toJson.All RealReread →
        ofText s.toJson.render = .ok s ∧ ofText s.toJson.canonical.render = .ok s) := by
  obtain ⟨document, hdocument, hread⟩ := ofText_eq_ok.1 h
  have hsound : s.toJson.All Sound := Snapshot.soundly document s (held_of_read? hdocument) hread
  rw [workloadIn?, hdocument] at hversion
  obtain ⟨hsaved, hsorted⟩ := saved_again hread hversion hwhole
  exact ⟨hsaved, hsorted, fun hreal =>
    ⟨ofText_render hsound hreal hsaved, ofText_render hsound.canonical hreal.canonical hsorted⟩⟩

/-- A snapshot of an object of another kind that keeps a floating-point number, one half, and of a
pod that has started. -/
def pacedShop : Json :=
  .object
    [("workload", .object
      [("apiVersion", .string "argoproj.io/v1alpha1"), ("kind", .string "Rollout"),
        ("metadata", .object [("name", .string "web")]),
        ("spec", .object
          [("pace", .number (.real ⟨false, Nat.pow 2 52, -53⟩)),
            ("selector", .object [("app", .string "web")])])]),
      ("pods", .array [.object
        [("metadata", .object
          [("name", .string "web-0"), ("labels", .object [("app", .string "web")])]),
          ("status", .object
            [("phase", .string "Running"), ("startTime", .string "2024-05-01T10:00:00Z")])]])]

theorem saved_text_again_pacedShop :
    ∃ s, ofText pacedShop.render = .ok s ∧ s.WholeTimes ∧ s.toJson.All RealReread ∧
      ofText s.toJson.render = .ok s ∧ ofText s.toJson.canonical.render = .ok s := by
  have hdocument : read? pacedShop.render = some pacedShop := read?_render (by decide +kernel)
  have hversion : ∀ d ∈ workloadIn? pacedShop.render, Workload.VersionIsText d := by
    rw [workloadIn?, hdocument]
    rintro d ⟨rfl⟩ version ⟨rfl⟩
    exact ⟨_, rfl⟩
  have hshop : ∃ s, ofJson pacedShop = .ok s ∧ s.WholeTimes ∧ s.toJson.All RealReread :=
    ⟨_, rfl, by decide +kernel, by decide +kernel⟩
  obtain ⟨s, hread, hwhole, hreal⟩ := hshop
  have hread := ofText_eq_ok.2 ⟨_, hdocument, hread⟩
  exact ⟨s, hread, hwhole, hreal, (saved_text_again hread hversion hwhole).2.2 hreal⟩

/-- A snapshot of an object whose selector has a number for a text. -/
def driftingShop : String :=
  "\x7b\"workload\":\x7b\"apiVersion\":\"argoproj.io/v1alpha1\",\"kind\":\"Rollout\"," ++
  "\"metadata\":\x7b\"name\":\"web\"\x7d,\"spec\":\x7b\"selector\":\x7b\"matchLabels\":" ++
  "\x7b\"app\":0.9193492049028818\x7d\x7d\x7d\x7d\x7d"

/-- The error about its selector, for the number that was found. -/
def driftingError (found : String) : GatherError :=
  .selector <| "unable to resolve pod selector for Rollout/web: invalid type: floating point " ++
    found ++ ", expected a string"

/-- **A number that is kept can drift**: the error about the selector names another one after the
snapshot was saved once. -/
theorem saved_text_drifts :
    (∀ d ∈ workloadIn? driftingShop, Workload.VersionIsText d) ∧
    ∃ s again, ofText driftingShop = .ok s ∧ s.WholeTimes ∧ ofText s.toJson.render = .ok again ∧
      s.workload.selector = .error (driftingError "`0.9193492049028817`") ∧
      again.workload.selector = .error (driftingError "`0.9193492049028816`") := by
  have hread : (ofText driftingShop).toOption.any fun s =>
      s.WholeTimes ∧ s.workload.selector = .error (driftingError "`0.9193492049028817`") ∧
      (ofText s.toJson.render).toOption.any fun again =>
        again.workload.selector = .error (driftingError "`0.9193492049028816`") := by
    decide +kernel
  simp only [Option.any_eq_true, toOption_eq_some_iff, decide_eq_true_eq] at hread
  obtain ⟨s, hs, hwhole, hselector, again, hagain, hother⟩ := hread
  exact ⟨by decide +kernel, s, again, hs, hwhole, hagain, hselector, hother⟩

end Snapshot

end ScaleMetrics

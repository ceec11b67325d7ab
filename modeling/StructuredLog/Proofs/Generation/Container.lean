import StructuredLog.Generation.Container
import StructuredLog.Proofs.Generation.Diagnosis

/-! # Containers — generating sound declarations

    A container reports what its declarations report, and a warning for each
    event id that is used again (`mem_containerDiagnostics`); where the event
    ids are distinct it reports nothing of its own
    (`containerDiagnostics_of_nodup`).  So a container of sound declarations has
    no error, and all its methods are generated
    (`generateContainer_of_isSound`). -/

namespace StructuredLog

variable {system : TypeSystem} {options : GeneratorOptions} {earlier ds : List Declaration}
  {d : Declaration} {e : Diagnostic}

/-! ## Repeated event ids -/

theorem code_of_mem_repeatedIdWarnings (h : e ∈ repeatedIdWarnings earlier d) :
    e.code = .repeatedEventId := by
  rw [repeatedIdWarnings] at h
  cases hfirst : earlier.find? (·.marking.eventId == d.marking.eventId) with
  | none =>
      rw [hfirst] at h
      exact nomatch h
  | some first =>
      rw [hfirst] at h
      rw [List.mem_singleton.mp h]
      rfl

/-- A new event id draws no warning. -/
theorem repeatedIdWarnings_of_forall_ne
    (h : ∀ other ∈ earlier, other.marking.eventId ≠ d.marking.eventId) :
    repeatedIdWarnings earlier d = [] := by
  have hnone : earlier.find? (·.marking.eventId == d.marking.eventId) = none :=
    List.find?_eq_none.mpr fun other hother heq => h other hother (beq_iff_eq.mp heq)
  rw [repeatedIdWarnings, hnone]

/-! ## The diagnostics of a container -/

/-- A diagnostic of a container is one of its declarations', or about a repeated id. -/
theorem mem_containerDiagnostics (h : e ∈ containerDiagnostics system options earlier ds) :
    (∃ d ∈ ds, e ∈ (d.generate system options).diagnostics) ∨ e.code = .repeatedEventId := by
  induction ds generalizing earlier with
  | nil => exact nomatch h
  | cons d ds ih =>
      rw [containerDiagnostics] at h
      rcases List.mem_append.mp h with h | h
      · rcases List.mem_append.mp h with h | h
        · exact .inl ⟨d, List.mem_cons_self, h⟩
        · exact .inr (code_of_mem_repeatedIdWarnings h)
      · exact (ih h).imp_left fun ⟨d', hd', he⟩ => ⟨d', List.mem_cons_of_mem d hd', he⟩

/-- What a declaration reports is a diagnostic of its container. -/
theorem mem_containerDiagnostics_of_mem (hd : d ∈ ds)
    (he : e ∈ (d.generate system options).diagnostics) :
    e ∈ containerDiagnostics system options earlier ds := by
  induction ds generalizing earlier with
  | nil => exact nomatch hd
  | cons d' ds ih =>
      rw [containerDiagnostics]
      rcases List.mem_cons.mp hd with rfl | hd
      · exact List.mem_append_left _ (List.mem_append_left _ he)
      · exact List.mem_append_right _ (ih hd)

/-- **Declarations of distinct event ids report what each of them does.** -/
theorem containerDiagnostics_of_nodup
    (h : ((earlier ++ ds).map (·.marking.eventId)).Nodup) :
    containerDiagnostics system options earlier ds
      = ds.flatMap fun d => (d.generate system options).diagnostics := by
  induction ds generalizing earlier with
  | nil => rfl
  | cons d ds ih =>
      have hnew : ∀ other ∈ earlier, other.marking.eventId ≠ d.marking.eventId := by
        rw [List.map_append, List.nodup_append] at h
        intro other hother
        exact h.2.2 _ (List.mem_map_of_mem hother) _ List.mem_cons_self
      rw [List.append_cons] at h
      rw [containerDiagnostics, repeatedIdWarnings_of_forall_ne hnew, List.append_nil, ih h,
        List.flatMap_cons]

/-! ## Containers of sound declarations -/

theorem plan?_isSome_of_isSound (h : d.IsSound system options) :
    (d.generate system options).plan?.isSome = true :=
  Option.isSome_iff_exists.mpr (exists_plan_iff_isSound.mpr h)

/-- **Sound declarations are generated without error**, all of them and in order, and
    without a warning about event ids if these are distinct. -/
theorem generateContainer_of_isSound (name : String) (h : ∀ d ∈ ds, d.IsSound system options) :
    (generateContainer system options name ds).hasErrors = false ∧
      (generateContainer system options name ds).container = .ofDeclarations name ds ∧
      (generateContainer system options name ds).plans.map some
        = ds.map (fun d => (d.generate system options).plan?) ∧
      ((ds.map (·.marking.eventId)).Nodup →
        ∀ e ∈ (generateContainer system options name ds).diagnostics,
          e.code ≠ .repeatedEventId) := by
  refine ⟨?_, ?_, ?_, ?_⟩
  · refine List.any_eq_false.mpr ?_
    intro e he
    rcases mem_containerDiagnostics he with ⟨d, hd, he⟩ | hcode
    · have husable := Declaration.isSound_iff_isUsable_diagnostics.mp (h d hd)
      rw [isUsable_iff.mp husable e he]
      exact Bool.false_ne_true
    · rw [Diagnostic.isError, Diagnostic.severity, hcode]
      exact Bool.false_ne_true
  · show Container.ofDeclarations name (ds.filter _) = _
    rw [List.filter_eq_self.mpr fun d hd => plan?_isSome_of_isSound (h d hd)]
  · show (ds.filterMap _).map some = _
    rw [List.map_filterMap_some_eq_filter_map_isSome]
    refine List.filter_eq_self.mpr ?_
    intro plan? hplan
    obtain ⟨d, hd, rfl⟩ := List.mem_map.mp hplan
    exact plan?_isSome_of_isSound (h d hd)
  · intro hnodup e he
    have hown : containerDiagnostics system options [] ds
        = ds.flatMap fun d => (d.generate system options).diagnostics :=
      containerDiagnostics_of_nodup hnodup
    rw [generateContainer, hown] at he
    obtain ⟨d, -, he⟩ := List.mem_flatMap.mp he
    exact Code.isOfMethod_ne_repeatedEventId (d.areOfMethod_diagnostics system options e he)

end StructuredLog

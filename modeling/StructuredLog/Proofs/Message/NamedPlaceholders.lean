import Mathlib.Data.List.Nodup
import StructuredLog.HostType.Facts
import StructuredLog.Proofs.Message.Filling

/-! # Named placeholders — what a placeholder shows that names an argument

    A placeholder with the exact name of an argument shows that argument as
    long as case plays no part.  Names that differ only in ASCII case are one
    name to the payloads: by position a placeholder shows the argument that
    stands where it does, and among fields it shows the first argument of its
    name in any case, provided it is spelled like the first placeholder of that
    name; any other spelling is left as written
    (`named_placeholder_shows`).  So two arguments of one name can swap places
    (`swapped_arguments_are_shown_for_each_other`). -/

namespace StructuredLog

open Template Text

variable {system : TypeSystem} {options : GeneratorOptions} {d : Declaration}
  {plan : MethodPlan} {values : List Value}

/-- A placeholder is spelled like the first one of its template that equals it up
    to ASCII case. -/
def IsFirstSpelling (template : String) (p : Placeholder) : Prop :=
  (names template).find? (sameFolded · p.name) = some p.name

/-- The spelling that names the field is the one that comes first in the template. -/
theorem isFirstSpelling_iff_fieldName (h : (d.generate system options).plan? = some plan)
    {p : Placeholder} (hp : p ∈ placeholders d.marking.message) :
    IsFirstSpelling d.marking.message p ↔ plan.statement.fieldName p.name = p.name := by
  rw [IsFirstSpelling, Statement.fieldName]
  rw [Declaration.placeholders_of_plan? h]
  have hfound : ((names d.marking.message).find? fun q => sameFolded q p.name).isSome = true :=
    List.find?_isSome.mpr ⟨p.name, mem_names_of_mem hp, sameFolded_self p.name⟩
  obtain ⟨first, hfirst⟩ := Option.isSome_iff_exists.mp hfound
  rw [hfirst]
  exact Option.some_inj

/-- By position, a placeholder shows the argument at its position, which equals it
    up to ASCII case. -/
theorem shows_of_positional (h : (d.generate system options).plan? = some plan)
    (hvalues : values.length = plan.statement.regular.length) {types : List TypeName}
    (hpayload : plan.payload = .positional types) {p : Placeholder}
    (hp : p ∈ placeholders d.marking.message) :
    ∃ b, plan.statement.regular[p.position]? = some b ∧ sameFolded b.name p.name = true ∧
      plan.Shows system values p b := by
  obtain ⟨-, hlines, -⟩ := Declaration.positional_of_plan? h hpayload
  have hname : plan.statement.placeholders[p.position]? = some p.name := by
    rw [Declaration.placeholders_of_plan? h]
    exact getElem?_names_position hp
  obtain ⟨hcount, hsame⟩ := Statement.linesUp_iff.mp hlines
  have hposition : p.position < plan.statement.regular.length :=
    hcount ▸ (List.getElem?_eq_some_iff.mp hname).1
  have hb := List.getElem?_eq_getElem hposition
  refine ⟨_, hb, hsame _ _ _ hb hname, shows_of_source? h hvalues ?_ hb⟩
  simp only [MethodPlan.source?, hpayload]

/-- Among fields, a placeholder of the first spelling shows the first argument of
    its name in any case. -/
theorem shows_of_fields (h : (d.generate system options).plan? = some plan)
    (hvalues : values.length = plan.statement.regular.length) {layout : FieldLayout}
    (hpayload : plan.payload = .fields layout) {p : Placeholder}
    (hp : p ∈ placeholders d.marking.message) (hfirst : IsFirstSpelling d.marking.message p)
    {b : Argument}
    (hb : plan.statement.regular.find? (sameFolded ·.name p.name) = some b) :
    plan.Shows system values p b := by
  rw [List.find?_eq_bind_findIdx?_getElem?, Option.bind_eq_some_iff] at hb
  obtain ⟨i, hi, hget⟩ := hb
  refine shows_of_source? h hvalues ?_ hget
  rw [source?_of_fields h hpayload hp, if_pos ((isFirstSpelling_iff_fieldName h hp).mp hfirst)]
  exact hi

/-- Among fields, a placeholder of any other spelling is left as written. -/
theorem filling?_eq_none_of_fields (h : (d.generate system options).plan? = some plan)
    {layout : FieldLayout} (hpayload : plan.payload = .fields layout) {p : Placeholder}
    (hp : p ∈ placeholders d.marking.message)
    (hother : ¬ IsFirstSpelling d.marking.message p) :
    plan.filling? values p = none := by
  refine filling?_eq_none_of_source? ?_
  rw [source?_of_fields h hpayload hp,
    if_neg fun hfirst => hother ((isFirstSpelling_iff_fieldName h hp).mpr hfirst)]

/-- **A placeholder that names an argument shows that argument** unless another
    argument has its name in another case or, among fields, another spelling of
    it comes first; in these cases it shows the argument at its position, or
    the first argument of its name in any case, or stays as written.  The
    message has a text where the widths that are asked for are served or
    ignored. -/
theorem named_placeholder_shows (hplan : (d.generate system {}).plan? = some plan)
    (hdistinct : (plan.statement.regular.map Argument.name).Nodup)
    (hvalues : values.length = plan.statement.regular.length) :
    plan.render values
        = .ok (renderSegments (plan.filling? values) (segments d.marking.message)) ∧
      ((∀ p ∈ placeholders d.marking.message, (plan.filling? values p).isSome = true →
          ∀ n, p.AsksFor n → n.natAbs ≤ 65535 ∨ 1000000 ≤ n.natAbs) →
        ∃ text, plan.render values = .ok (.ok text)) ∧
      ∀ p ∈ placeholders d.marking.message, ∀ a ∈ plan.statement.regular, a.name = p.name →
        ((∀ b ∈ plan.statement.regular, sameFolded b.name p.name = true → b.name = p.name) →
          (∀ layout, plan.payload = .fields layout → IsFirstSpelling d.marking.message p) →
            plan.Shows system values p a) ∧
        (∀ types, plan.payload = .positional types →
          ∃ b, plan.statement.regular[p.position]? = some b ∧ sameFolded b.name p.name = true ∧
            plan.Shows system values p b) ∧
        (∀ layout, plan.payload = .fields layout →
          (IsFirstSpelling d.marking.message p →
            ∃ b, plan.statement.regular.find? (sameFolded ·.name p.name) = some b ∧
              plan.Shows system values p b) ∧
          (¬ IsFirstSpelling d.marking.message p → plan.filling? values p = none)) := by
  refine ⟨render_of_plan? (Nat.le_refl 6) hplan hvalues,
    exists_text_of_plan? (Nat.le_refl 6) hplan hvalues, ?_⟩
  intro p hp a ha hname
  have hfound : ∃ b, plan.statement.regular.find? (sameFolded ·.name p.name) = some b := by
    refine Option.isSome_iff_exists.mp (List.find?_isSome.mpr ⟨a, ha, ?_⟩)
    rw [hname]
    exact sameFolded_self p.name
  -- arguments of one exact name are one argument
  have hsame : ∀ b ∈ plan.statement.regular, b.name = p.name → b = a := by
    intro b hb hbp
    exact List.inj_on_of_nodup_map hdistinct hb ha (hbp.trans hname.symm)
  refine ⟨?_, ?_, ?_⟩
  · intro halone hfirst
    cases hpayload : plan.payload with
    | positional types =>
        obtain ⟨b, hb, hbp, hshows⟩ := shows_of_positional hplan hvalues hpayload hp
        have hmem := List.mem_of_getElem? hb
        rwa [hsame b hmem (halone b hmem hbp)] at hshows
    | fields layout =>
        obtain ⟨b, hb⟩ := hfound
        have hmem := List.mem_of_find?_eq_some hb
        have hbp : sameFolded b.name p.name = true :=
          List.find?_some (p := fun c : Argument => sameFolded c.name p.name) hb
        have hshows := shows_of_fields hplan hvalues hpayload hp (hfirst layout hpayload) hb
        rwa [hsame b hmem (halone b hmem hbp)] at hshows
  · intro types hpayload
    exact shows_of_positional hplan hvalues hpayload hp
  · intro layout hpayload
    refine ⟨?_, filling?_eq_none_of_fields hplan hpayload hp⟩
    intro hfirst
    obtain ⟨b, hb⟩ := hfound
    exact ⟨b, hb, shows_of_fields hplan hvalues hpayload hp hfirst hb⟩

/-- A method with two arguments of one name, which its template takes in the other
    order. -/
def twins : Declaration where
  name := "Twins"
  parameters :=
    [{ name := "logger", type := "ILogger" }, { name := "Name", type := "int" },
      { name := "name", type := "int" }]
  marking := { eventId := 1, level? := some .debug, message := "\x7bname\x7d \x7bName\x7d" }

/-- The plan of the twins. -/
def twinsPlan : MethodPlan :=
  ⟨twins.statement TypeFacts.conventional.system (.constant .debug), .positional ["int", "int"]⟩

/-- Arguments that differ in case alone go by position: the placeholder `name`
    shows the value of `Name`, and the other way around. -/
theorem swapped_arguments_are_shown_for_each_other :
    (twins.generate TypeFacts.conventional.system {}).plan? = some twinsPlan ∧
      (twinsPlan.statement.regular.map Argument.name).Nodup ∧
      twinsPlan.render [.int 1, .int 2] = .ok (.ok "1 2") ∧
      ∃ p ∈ placeholders twins.marking.message, ∃ a ∈ twinsPlan.statement.regular,
        a.name = p.name ∧
          ¬ twinsPlan.Shows TypeFacts.conventional.system [.int 1, .int 2] p a := by
  refine ⟨by decide +kernel, by decide +kernel, by decide +kernel,
    ⟨"name", 0, 0, 6, none⟩, by decide +kernel,
    ⟨"name", "int", .regular, .nowhere⟩, by decide +kernel, rfl, ?_⟩
  rintro ⟨i, v, ha, hv, hfilling⟩
  have hregular : twinsPlan.statement.regular
      = [⟨"Name", "int", .regular, .nowhere⟩, ⟨"name", "int", .regular, .nowhere⟩] := by
    decide +kernel
  rw [hregular] at ha
  match i with
  | 0 => exact absurd ha (by decide)
  | 1 =>
      obtain rfl := Option.some.inj hv
      exact absurd hfilling (by decide +kernel)
  | i + 2 => exact nomatch ha

/-- A method of fields, one of which is named in another case first. -/
def spellings : Declaration where
  name := "Spellings"
  parameters :=
    [{ name := "logger", type := "ILogger" }, { name := "id", type := "int" },
      { name := "host", type := "string" }]
  marking :=
    { eventId := 2
      level? := some .debug
      message := "\x7bId\x7d \x7bid\x7d \x7bhost,4\x7d" }

/-- The plan of the spellings. -/
def spellingsPlan : MethodPlan :=
  let statement := spellings.statement TypeFacts.conventional.system (.constant .debug)
  ⟨statement, .fields (statement.layout TypeFacts.conventional.system)⟩

/-- The second spelling of one name is left as written; the other arguments are shown. -/
theorem named_placeholder_shows_spellings :
    (spellings.generate TypeFacts.conventional.system {}).plan? = some spellingsPlan ∧
      spellingsPlan.render [.int 1, .text "a"] = .ok (.ok "1 \x7bid\x7d    a") ∧
      spellingsPlan.Shows TypeFacts.conventional.system [.int 1, .text "a"]
        ⟨"host", 2, 10, 18, some ",4"⟩ ⟨"host", "string", .regular, .nowhere⟩ := by
  have hplan : (spellings.generate TypeFacts.conventional.system {}).plan?
      = some spellingsPlan := by
    decide +kernel
  refine ⟨hplan, by decide +kernel, ?_⟩
  have hvalues : [Value.int 1, .text "a"].length = spellingsPlan.statement.regular.length := by
    decide +kernel
  have hdistinct : (spellingsPlan.statement.regular.map Argument.name).Nodup := by
    decide +kernel
  obtain ⟨-, -, hshows⟩ := named_placeholder_shows hplan hdistinct hvalues
  refine (hshows ⟨"host", 2, 10, 18, some ",4"⟩ (by decide +kernel)
    ⟨"host", "string", .regular, .nowhere⟩ (by decide +kernel) rfl).1 (by decide +kernel) ?_
  intro _ _
  show (names spellings.marking.message).find? _ = some "host"
  decide +kernel

end StructuredLog

import PropertyGraph.Access.Write
import PropertyGraph.Proofs.Access.Run

/-!
# Optionals, converted twice

Before a write the accessor takes the optional around a raw value off, lets the converter see the
content alone and puts the result into an optional. The converter can do the same by itself. The two
agree except for an absent value at an optional: the converter makes an empty optional of it, and
the accessor puts that empty optional into one more.
-/
namespace PropertyGraph

/-- The content of an optional; a bare value itself. -/
def Value.content : Value → Value
  | .optSome inner => inner
  | bare => bare

namespace Converter

variable {converter : Converter}

/-- A conversion is an attempt in which fewer questions may follow one another. -/
theorem tryConvert_eq (raw : Value) (target : DeclaredType) :
    converter.tryConvert raw target =
      converter.attempt (converter.attemptWithin 999) target raw :=
  rfl

/-- A coercion that applies to a raw value makes the value. -/
theorem coerce_eq {raw : Value} {target : DeclaredType} {coercion : Coercion}
    (found : converter.applicable? raw.kind target = some coercion) (ask : Ask) :
    converter.coerce raw target ask = coercion raw target ask := by
  rw [coerce, found]

/-- A conversion gives what its attempt makes of the value, or the value that passes. -/
theorem toOption_convert (raw : Value) (target : DeclaredType) :
    (converter.convert raw target).toOption =
      (converter.tryConvert raw target).toOption.map (·.getD raw) := by
  rw [convert]
  cases converter.tryConvert raw target <;> rfl

/-- The converter makes an empty optional of an absent value. -/
theorem convert_absent {raw : Value} (absent : raw.isAbsent = true) (content : DeclaredType) :
    converter.convert raw (.optional content) = .ok .optNone := by
  cases raw <;> simp_all [Value.isAbsent, convert, tryConvert_eq, attempt, intoOptional]

/-- The converter puts the converted content of a present value into an optional once. -/
theorem convert_present {raw : Value} (present : raw.isAbsent = false) (content : DeclaredType) :
    (converter.convert raw (.optional content)).toOption =
      (converter.convert raw.content content).toOption.map .optSome := by
  rw [toOption_convert, toOption_convert, tryConvert_eq, tryConvert_eq, attempt]
  cases raw with
  | null | optNone => simp [Value.isAbsent] at present
  | optSome inner =>
    simp only [intoOptional, Value.content]
    rcases converter.attempt (converter.attemptWithin 999) content inner with _ | _ | _ <;> rfl
  | _ =>
    simp only [intoOptional, Value.content]
    rcases converter.attempt (converter.attemptWithin 999) content _ with _ | _ | _ <;> rfl

end Converter

namespace Accessor

/-- Before a write an absent value becomes an optional that contains an empty one. -/
theorem convertTo_absent (converter : Converter) {raw : Value} (absent : raw.isAbsent = true)
    (content : DeclaredType) :
    convertTo converter raw (.optional content) = .ok (.optSome .optNone) := by
  cases raw <;> simp_all [Value.isAbsent, convertTo, Except.map]

/-- Before a write a present value becomes an optional of its converted content. -/
theorem convertTo_present (converter : Converter) {raw : Value} (present : raw.isAbsent = false)
    (content : DeclaredType) :
    convertTo converter raw (.optional content) =
      (converter.convert raw.content content).map .optSome := by
  cases raw <;> simp_all [Value.isAbsent, convertTo, Value.content]

/-- A conversion before a write leaves the world as it is. -/
theorem runOn_convertRaw (accessor : Accessor) (walked : List Segment) (raw : Value)
    (target : DeclaredType) (world : World) :
    (accessor.convertRaw walked raw target).runOn world =
      ((convertTo accessor.converter raw target).mapError
        (.typeMismatch (Segment.render walked)), world) :=
  rfl

/-- The conversion before a write agrees with the converter exactly if the target is no optional or
the raw value is present. At an optional it wraps an absent value twice; the content of any other
value is converted and wrapped once by both, whether it stands in an optional or bare. -/
theorem convertRaw_agrees_iff (accessor : Accessor) (walked : List Segment) (raw : Value)
    (target : DeclaredType) (world : World) :
    (((accessor.convertRaw walked raw target).runOn world).1.toOption =
        (accessor.converter.convert raw target).toOption ↔
      ¬ (target.isOptional = true ∧ raw.isAbsent = true)) ∧
    ∀ content, target = .optional content →
      (raw.isAbsent = true →
        (accessor.convertRaw walked raw target).runOn world = (.ok (.optSome .optNone), world) ∧
          accessor.converter.convert raw target = .ok .optNone) ∧
      (raw.isAbsent = false →
        ((accessor.convertRaw walked raw target).runOn world).1.toOption =
            (accessor.converter.convert raw.content content).toOption.map .optSome ∧
          (accessor.converter.convert raw target).toOption =
            (accessor.converter.convert raw.content content).toOption.map .optSome) := by
  have forget : ∀ outcome : Except ConversionError Value,
      (outcome.mapError (AccessError.typeMismatch (Segment.render walked))).toOption =
        outcome.toOption := by
    intro outcome
    cases outcome <;> rfl
  have wrapped : ∀ outcome : Except ConversionError Value,
      (outcome.map Value.optSome).toOption = outcome.toOption.map .optSome := by
    intro outcome
    cases outcome <;> rfl
  rw [runOn_convertRaw, forget]
  constructor
  · cases target with
    | optional content =>
      by_cases absent : raw.isAbsent
      · rw [convertTo_absent _ absent, Converter.convert_absent absent]
        simp [absent, DeclaredType.isOptional, Except.toOption]
      · have present : raw.isAbsent = false := by simpa using absent
        rw [convertTo_present _ present, Converter.convert_present present, wrapped]
        simp [present]
    | _ => simp [convertTo, DeclaredType.isOptional]
  · rintro content rfl
    constructor
    · intro absent
      rw [convertTo_absent _ absent]
      exact ⟨rfl, Converter.convert_absent absent content⟩
    · intro present
      rw [convertTo_present _ present, wrapped]
      exact ⟨rfl, Converter.convert_present present content⟩

/-- An optional of an optional integer takes `null` in two ways. -/
theorem convertRaw_disagrees :
    ¬ ∀ (accessor : Accessor) (walked : List Segment) (raw : Value) (target : DeclaredType)
      (world : World), ((accessor.convertRaw walked raw target).runOn world).1.toOption =
        (accessor.converter.convert raw target).toOption := by
  intro agrees
  have same : some (Value.optSome .optNone) = some .optNone :=
    agrees { registry := {} } [.name "optOpt"] .null (.optional (.optional (.int .i32))) {}
  simp at same

end Accessor

end PropertyGraph

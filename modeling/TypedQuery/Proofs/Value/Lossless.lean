import TypedQuery.Proofs.Calendar.WrittenForm
import TypedQuery.Proofs.Uuid
import TypedQuery.Proofs.Value.Equality
import TypedQuery.Proofs.Value.Integers

/-!
# What a conversion loses

A value that is converted and converted back to its own type comes back where the result is equal to
it (`Value.ComesBack`).  Three ways bring it back: its type stands in for the other one, its text is
read (`Value.comesBack_text`), or its integer is carried over (`Value.Carries.comesBack`).

What does not come back is said by `Value.IsLostAs`: integers as truth values, unsigned integers above
the signed range as decimals or in documents, and the time of day.  The theorem
`Value.comesBack_iff_not_isLostAs` has one lemma for each variant behind it.  That dates and timestamps
have a text that reads as them is taken for granted there (`Value.ReadsBack`); it is so for all dates
of the calendar and for timestamps of years with four digits.
-/

namespace TypedQuery

open Number Text

namespace Value

/-! ## The way back -/

/-- Whether a value is of one of the variants that are converted exactly, if at all: there are gaps
between their values, or names for them. -/
def isDiscrete : Value → Bool
  | .int _ | .uint _ | .boolean _ | .uuid _ | .date _ | .timestamp _ | .enum _ _ => true
  | _ => false

/-- Whether the text of a date or of a timestamp is read as that. -/
def ReadsBack : Value → Prop
  | .date d => Date.read? d.text.toList = some d
  | .timestamp t => Timestamp.read? t.text.toList = some t
  | _ => True

/-- Whether what a value was converted to is converted back to something equal to it. -/
def ComesBack (v w : Value) : Prop :=
  ∃ u, w.coerceTo? v.dataType = some u ∧ u.equal v = true

/-- Whether a value that is converted to a type does not come back: it becomes a truth value, a signed
integer does not hold it on the way back, or its time of day falls away. -/
def IsLostAs : Value → DataType → Prop
  | .int _, .boolean | .uint _, .boolean => True
  | .uint n, .decimal | .uint n, .json => 0x8000000000000000 ≤ n.toNat
  | .timestamp t, .date => t.second ≠ 0 ∨ t.nanos ≠ 0
  | _, _ => False

theorem readsBack_date {d : Date} (hyear : -262143 ≤ d.year ∧ d.year ≤ 262142) :
    (Value.date d).ReadsBack := Date.read?_text hyear

theorem readsBack_timestamp {t : Timestamp} (hyear : 0 ≤ t.date.year ∧ t.date.year ≤ 9999)
    (hleap : t.nanos < 1000000000 ∨ t.second % 60 = 59) : (Value.timestamp t).ReadsBack :=
  Timestamp.read?_text hyear hleap

section Ways

variable {v w : Value} {type : DataType} {n : Int}

theorem equal_self_of_isDiscrete (hv : v.isDiscrete = true) : v.equal v = true := by
  refine equal_self ?_
  cases v with
  | float | list | record => cases hv
  | _ => rfl

theorem comesBack_of_coerceTo? (hv : v.isDiscrete = true) (h : w.coerceTo? v.dataType = some v) :
    v.ComesBack w := ⟨v, h, equal_self_of_isDiscrete hv⟩

/-- A value is of its own type. -/
theorem comesBack_self (hv : v.isDiscrete = true) : v.ComesBack v :=
  comesBack_of_coerceTo? hv (by cases v <;> rfl)

/-- The text of a value reads as a value equal to it, in which nothing falls away as blank. -/
theorem exists_parseAs?_text_equal (hv : v.isDiscrete = true) (hread : v.ReadsBack) :
    ∃ u, parseAs? v.text v.dataType = some u ∧ u.equal v = true := by
  have hself := equal_self_of_isDiscrete hv
  cases v with
  | int n =>
    refine ⟨.int n, ?_, hself⟩
    change (readInt64? (trimmed (intText n.toInt).toList)).map Value.int >>= ifFits .long = _
    rw [readInt64?_intText]
    rfl
  | uint n =>
    refine ⟨.uint n, ?_, hself⟩
    change (readUInt64? (trimmed (natText n.toNat).toList)).map Value.uint = _
    rw [readUInt64?_natText]
    rfl
  | boolean b =>
    refine ⟨.boolean b, ?_, hself⟩
    cases b <;> rfl
  | uuid u =>
    refine ⟨.uuid u, ?_, hself⟩
    change (Uuid.read? (trimmed u.text.toList)).map Value.uuid = _
    rw [trimmed_eq_self fun _ => Uuid.not_blank_of_mem_text, Uuid.read?_text]
    rfl
  | date d =>
    have hread : Date.read? d.text.toList = some d := hread
    refine ⟨.date d, ?_, hself⟩
    change (Date.read? (trimmed d.text.toList)).map Value.date = _
    rw [trimmed_eq_self fun _ => Date.not_blank_of_mem_text, hread]
    rfl
  | timestamp t =>
    have hread : Timestamp.read? t.text.toList = some t := hread
    refine ⟨.timestamp t, ?_, hself⟩
    change (Timestamp.read? (trimmed t.text.toList)).map Value.timestamp = _
    rw [trimmed_eq_self fun _ => Timestamp.not_blank_of_mem_text, hread]
    rfl
  | enum type name => exact ⟨.string name, rfl, hself⟩
  | _ => cases hv

/-- A text is read as the type of the value, alone or as a document. -/
theorem coerceTo?_string (v : Value) (s : String) :
    (Value.string s).coerceTo? v.dataType = parseAs? s v.dataType := by
  cases v <;> rfl

theorem coerceTo?_document (hv : v.isDiscrete = true) (s : String) :
    (Value.json (.string s)).coerceTo? v.dataType = parseAs? s v.dataType := by
  cases v <;> first | rfl | cases hv

theorem comesBack_text (hv : v.isDiscrete = true) (hread : v.ReadsBack) :
    v.ComesBack (.string v.text) := by
  rw [ComesBack, coerceTo?_string]
  exact exists_parseAs?_text_equal hv hread

theorem comesBack_document (hv : v.isDiscrete = true) (hread : v.ReadsBack) :
    v.ComesBack (.json (.string v.text)) := by
  rw [ComesBack, coerceTo?_document hv]
  exact exists_parseAs?_text_equal hv hread

/-- As a textual type a value is its text, or the name that it is already. -/
theorem coerceTo?_of_isTextual (hv : v.isDiscrete = true) (htype : type.isTextual = true) :
    v.coerceTo? type = some v ∨ v.coerceTo? type = some (.string v.text) := by
  cases type with
  | string | char | enum | custom =>
    cases v with
    | int | uint | boolean | uuid | date | timestamp => exact Or.inr rfl
    | enum => first | exact Or.inl rfl | exact Or.inr rfl
    | _ => cases hv
  | _ => cases htype

theorem comesBack_of_isTextual (hv : v.isDiscrete = true) (hread : v.ReadsBack)
    (htype : type.isTextual = true) (h : v.coerceTo? type = some w) : v.ComesBack w := by
  rcases coerceTo?_of_isTextual hv htype with hself | htext
  · obtain rfl := Option.some.inj (hself.symm.trans h)
    exact comesBack_self hv
  · obtain rfl := Option.some.inj (htext.symm.trans h)
    exact comesBack_text hv hread

end Ways

/-! ## Integers -/

/-- The values that hold an integer and nothing else. -/
inductive Carries : Value → Int → Prop
  | int (i : Int64) : Carries (.int i) i.toInt
  | uint (u : UInt64) : Carries (.uint u) u.toNat

section Integers

variable {v w : Value} {type : DataType} {n : Int}

theorem Carries.isDiscrete (hv : v.Carries n) : v.isDiscrete = true := by
  cases hv <;> rfl

theorem Carries.isInteger_dataType (hv : v.Carries n) : v.dataType.isInteger = true := by
  cases hv <;> rfl

theorem Carries.integer?_dataType (hv : v.Carries n) : v.dataType.integer? n = some v := by
  cases hv with
  | int i =>
    change DataType.long.integer? i.toInt = _
    rw [← map_int_toInt64? rfl, toInt64?_toInt]
    rfl
  | uint u =>
    change DataType.unsigned.integer? u.toNat = _
    rw [← map_uint_toUInt64?, toUInt64?_toNat]
    rfl

theorem Carries.coerceTo?_eq (hv : v.Carries n) (htype : type.isInteger = true) :
    v.coerceTo? type = type.integer? n := by
  cases hv with
  | int i => exact coerceTo?_int i htype
  | uint u => exact coerceTo?_uint u htype

theorem carries_of_integer? (h : type.integer? n = some v) : v.Carries n := by
  cases represents_of_integer? h with
  | int i => exact .int i
  | uint u => exact .uint u
  | _ => cases type <;> simp [DataType.integer?, DataType.range?, DataType.carrier] at h

/-- Between the integer types an integer is carried over. -/
theorem Carries.comesBack (hv : v.Carries n) (hw : w.Carries n) : v.ComesBack w :=
  comesBack_of_coerceTo? hv.isDiscrete
    ((hw.coerceTo?_eq hv.isInteger_dataType).trans hv.integer?_dataType)

/-- From decimals and documents it comes by way of a signed integer. -/
theorem Carries.comesBack_iff (hv : v.Carries n) (hw : w.Represents n)
    (hsigned : w.isReadSigned = true) : v.ComesBack w ↔ n < 0x8000000000000000 := by
  have hback := coerceTo?_of_isReadSigned hw hsigned hv.isInteger_dataType
  constructor
  · rintro ⟨u, hu, -⟩
    by_contra hge
    rw [hback, if_pos (by omega)] at hu
    cases hu
  · intro hlt
    rw [if_neg (by omega), hv.integer?_dataType] at hback
    exact comesBack_of_coerceTo? hv.isDiscrete hback

end Integers

/-! ## The variants -/

/-- Only the first moment of a day is left of a timestamp whose date is taken. -/
theorem equal_timestamp_ofDate_iff {t : Timestamp} :
    (Value.timestamp (.ofDate t.date)).equal (.timestamp t) = true ↔
      ¬ (t.second ≠ 0 ∨ t.nanos ≠ 0) := by
  have hdate : t.date.cmp t.date = .eq := Std.ReflCmp.compare_self
  have hcmp : (Timestamp.ofDate t.date).cmp t = (compare 0 t.second).then (compare 0 t.nanos) := by
    change (t.date.cmp t.date).then ((compare 0 t.second).then (compare 0 t.nanos)) = _
    rw [hdate]
    rfl
  change ((some ((Timestamp.ofDate t.date).cmp t)) == some .eq) = true ↔ _
  rw [beq_iff_eq, Option.some_inj, hcmp, Ordering.then_eq_eq, Nat.compare_eq_eq, Nat.compare_eq_eq]
  omega

section Variants

variable {w : Value} {type : DataType} (hfloat : type ≠ .float) (hdouble : type ≠ .double)

include hfloat hdouble

theorem comesBack_int_iff {i : Int64} (h : (Value.int i).coerceTo? type = some w) :
    (Value.int i).ComesBack w ↔ ¬ (Value.int i).IsLostAs type := by
  have hv : (Value.int i).Carries i.toInt := .int i
  cases type with
  | short | int | long | unsigned =>
    rw [hv.coerceTo?_eq rfl] at h
    exact iff_of_true (hv.comesBack (carries_of_integer? h)) id
  | string | char | enum | custom => exact iff_of_true (comesBack_of_isTextual rfl trivial rfl h) id
  | decimal =>
    obtain rfl := Option.some.inj h
    exact iff_of_true ((hv.comesBack_iff (.decimal (Decimal.toRat_ofInt _)) rfl).2 i.toInt_lt) id
  | json =>
    obtain rfl := Option.some.inj h
    exact iff_of_true ((hv.comesBack_iff (.number _ _) rfl).2 i.toInt_lt) id
  | boolean =>
    obtain rfl := Option.some.inj h
    exact iff_of_false (fun ⟨_, hu, _⟩ => nomatch hu) (not_not_intro trivial)
  | float => exact absurd rfl hfloat
  | double => exact absurd rfl hdouble
  | uuid | date | timestamp | null => cases h

theorem comesBack_uint_iff {u : UInt64} (h : (Value.uint u).coerceTo? type = some w) :
    (Value.uint u).ComesBack w ↔ ¬ (Value.uint u).IsLostAs type := by
  have hv : (Value.uint u).Carries u.toNat := .uint u
  have hrange : (u.toNat : Int) < 0x8000000000000000 ↔ ¬ 0x8000000000000000 ≤ u.toNat := by omega
  cases type with
  | short | int | long | unsigned =>
    rw [hv.coerceTo?_eq rfl] at h
    exact iff_of_true (hv.comesBack (carries_of_integer? h)) id
  | string | char | enum | custom => exact iff_of_true (comesBack_of_isTextual rfl trivial rfl h) id
  | decimal =>
    obtain rfl := Option.some.inj h
    exact (hv.comesBack_iff (.decimal (Decimal.toRat_ofInt _)) rfl).trans hrange
  | json =>
    obtain rfl := Option.some.inj h
    exact (hv.comesBack_iff (.number _ _) rfl).trans hrange
  | boolean =>
    obtain rfl := Option.some.inj h
    exact iff_of_false (fun ⟨_, hu, _⟩ => nomatch hu) (not_not_intro trivial)
  | float => exact absurd rfl hfloat
  | double => exact absurd rfl hdouble
  | uuid | date | timestamp | null => cases h

theorem comesBack_boolean {b : Bool} (h : (Value.boolean b).coerceTo? type = some w) :
    (Value.boolean b).ComesBack w := by
  cases type with
  | boolean =>
    obtain rfl := Option.some.inj h
    exact comesBack_self rfl
  | string | char | enum | custom => exact comesBack_of_isTextual rfl trivial rfl h
  | json =>
    obtain rfl := Option.some.inj h
    exact comesBack_of_coerceTo? rfl rfl
  | float => exact absurd rfl hfloat
  | double => exact absurd rfl hdouble
  | short | int | long | unsigned | decimal | uuid | date | timestamp | null => cases h

theorem comesBack_uuid {u : Uuid} (h : (Value.uuid u).coerceTo? type = some w) :
    (Value.uuid u).ComesBack w := by
  cases type with
  | uuid =>
    obtain rfl := Option.some.inj h
    exact comesBack_self rfl
  | string | char | enum | custom => exact comesBack_of_isTextual rfl trivial rfl h
  | json =>
    obtain rfl := Option.some.inj h
    exact comesBack_document (v := .uuid u) rfl trivial
  | float => exact absurd rfl hfloat
  | double => exact absurd rfl hdouble
  | boolean | short | int | long | unsigned | decimal | date | timestamp | null => cases h

theorem comesBack_enum {name value : String} (h : (Value.enum name value).coerceTo? type = some w) :
    (Value.enum name value).ComesBack w := by
  cases type with
  | string | char | enum | custom => exact comesBack_of_isTextual rfl trivial rfl h
  | json =>
    obtain rfl := Option.some.inj h
    exact comesBack_document (v := .enum name value) rfl trivial
  | float => exact absurd rfl hfloat
  | double => exact absurd rfl hdouble
  | boolean | short | int | long | unsigned | decimal | uuid | date | timestamp | null => cases h

/-- As a timestamp a date is its first moment. -/
theorem comesBack_date {d : Date} (hread : (Value.date d).ReadsBack)
    (h : (Value.date d).coerceTo? type = some w) : (Value.date d).ComesBack w := by
  cases type with
  | date =>
    obtain rfl := Option.some.inj h
    exact comesBack_self rfl
  | timestamp =>
    obtain rfl := Option.some.inj h
    exact comesBack_of_coerceTo? rfl rfl
  | string | char | enum | custom => exact comesBack_of_isTextual rfl hread rfl h
  | json =>
    obtain rfl := Option.some.inj h
    exact comesBack_document (v := .date d) rfl hread
  | float => exact absurd rfl hfloat
  | double => exact absurd rfl hdouble
  | boolean | short | int | long | unsigned | decimal | uuid | null => cases h

/-- From its date a timestamp comes back as the first moment of the day. -/
theorem comesBack_timestamp_iff {t : Timestamp} (hread : (Value.timestamp t).ReadsBack)
    (h : (Value.timestamp t).coerceTo? type = some w) :
    (Value.timestamp t).ComesBack w ↔ ¬ (Value.timestamp t).IsLostAs type := by
  cases type with
  | timestamp =>
    obtain rfl := Option.some.inj h
    exact iff_of_true (comesBack_self rfl) id
  | date =>
    obtain rfl := Option.some.inj h
    refine Iff.trans ⟨?_, fun hequal => ⟨_, rfl, hequal⟩⟩ equal_timestamp_ofDate_iff
    rintro ⟨u, hu, hequal⟩
    obtain rfl := Option.some.inj hu
    exact hequal
  | string | char | enum | custom => exact iff_of_true (comesBack_of_isTextual rfl hread rfl h) id
  | json =>
    obtain rfl := Option.some.inj h
    exact iff_of_true (comesBack_document (v := .timestamp t) rfl hread) id
  | float => exact absurd rfl hfloat
  | double => exact absurd rfl hdouble
  | boolean | short | int | long | unsigned | decimal | uuid | null => cases h

/-- A discrete value that is converted comes back unless it is lost as that type. -/
theorem comesBack_iff_not_isLostAs {v : Value} (hv : v.isDiscrete = true) (hread : v.ReadsBack)
    (h : v.coerceTo? type = some w) : v.ComesBack w ↔ ¬ v.IsLostAs type := by
  cases v with
  | int => exact comesBack_int_iff hfloat hdouble h
  | uint => exact comesBack_uint_iff hfloat hdouble h
  | boolean => exact iff_of_true (comesBack_boolean hfloat hdouble h) id
  | uuid => exact iff_of_true (comesBack_uuid hfloat hdouble h) id
  | date => exact iff_of_true (comesBack_date hfloat hdouble hread h) id
  | timestamp => exact comesBack_timestamp_iff hfloat hdouble hread h
  | enum => exact iff_of_true (comesBack_enum hfloat hdouble h) id
  | _ => cases hv

end Variants

end Value

namespace Sample

/-- A day that only leap years have. -/
def leapDay : Date := ⟨2020, 2, 29, by decide⟩

/-- A moment of that day. -/
def tenOClock : Timestamp :=
  { Timestamp.ofDate leapDay with second := 36000, second_lt := by decide }

end Sample

namespace Value

open Sample

/-- A leap day comes back from its text. -/
theorem comesBack_leapDay :
    (Value.date leapDay).coerceTo? .string = some (.string "2020-02-29") ∧
    (Value.date leapDay).ComesBack (.string "2020-02-29") := by
  have htext : leapDay.text = "2020-02-29" := by decide +kernel
  have hread : (Value.date leapDay).ReadsBack := readsBack_date (by decide)
  have hfloat : DataType.string ≠ .float := nofun
  have hdouble : DataType.string ≠ .double := nofun
  have hcoerced : (Value.date leapDay).coerceTo? .string = some (.string "2020-02-29") :=
    congrArg (fun s => some (Value.string s)) htext
  exact ⟨hcoerced, (comesBack_iff_not_isLostAs hfloat hdouble rfl hread hcoerced).2 id⟩

/-- The time of day is lost with the date taken, an integer as a truth value, and one above the signed
range as a decimal. -/
theorem not_comesBack_tenOClock :
    (Value.timestamp tenOClock).ReadsBack ∧
    (Value.timestamp tenOClock).coerceTo? .date = some (.date leapDay) ∧
    ¬ (Value.timestamp tenOClock).ComesBack (.date leapDay) ∧
    (Value.int 5).coerceTo? .boolean = some (.boolean true) ∧
    ¬ (Value.int 5).ComesBack (.boolean true) ∧
    (Value.uint 9223372036854775808).coerceTo? .decimal =
      some (.decimal ⟨9223372036854775808, 0⟩) ∧
    ¬ (Value.uint 9223372036854775808).ComesBack (.decimal ⟨9223372036854775808, 0⟩) := by
  refine ⟨readsBack_timestamp (by decide) (by decide), rfl, ?_, rfl, ?_, rfl, ?_⟩
  · rintro ⟨u, hu, hequal⟩
    obtain rfl := Option.some.inj hu
    exact absurd hequal (by decide)
  · rintro ⟨u, hu, -⟩
    cases hu
  · rintro ⟨u, hu, -⟩
    cases hu

end Value

end TypedQuery

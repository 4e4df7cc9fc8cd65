import TypedQuery.Eval.Basic
import TypedQuery.Plan.Shaping
import TypedQuery.Wire.Request

/-!
# Arguments of a field

The arguments supplied to a field are evaluated and converted to what it declares. All of them stand in
the holder that the template reads; those that shape the query are also read as what they mean.
-/

namespace TypedQuery

/-- The arguments of a field: the holder for the template, and what shapes the query. -/
structure BoundArguments where
  holder : Dict Value
  clauses : List FilterClause
  sort : Option SortSpec
  page : Option Int64
  pageSize : Option Int64
deriving Inhabited

namespace BoundArguments

/-- No arguments. -/
def empty : BoundArguments := ⟨[], [], none, none, none⟩

/-- The page asked for. -/
def pagination (b : BoundArguments) : PageSpec := ⟨b.page, b.pageSize⟩

/-- What shapes the query. -/
def shaping (b : BoundArguments) : ShapingRequest := ⟨b.clauses, b.sort, b.pagination⟩

/-- The holder as a value. -/
def holderValue (b : BoundArguments) : Value := .record b.holder

/-- Puts a value into the slot of an argument. -/
def withSlot (b : BoundArguments) (name : String) (v : Value) : BoundArguments :=
  { b with holder := b.holder.insert name v }

end BoundArguments

/-- The expression supplied for an argument: under its name, else under the first name that
matches. -/
def supplied? (lookup : MemberLookup) (supplied : Dict Expr) (name : String) : Option Expr :=
  match supplied.get? name with
  | some e => some e
  | none => (supplied.find? fun (k, _) => lookup.pairs k name).map Prod.snd

/-- The slot of a filter: whether there is one, and the filter as it was supplied. -/
def filterSlot (raw : Value) : Value :=
  let raw := match raw with
    | .json .null => .null
    | v => v
  .ofFields [("hasValue", .boolean (!raw.isNull)), ("query", raw)]

/-- The slot of a sort. -/
def sortSlot : Option SortSpec → Value
  | none => .null
  | some s =>
    .ofFields [("field", match s.field with
        | some p => .string p.raw
        | none => .null),
      ("direction", .string s.direction.wireName)]

/-- The slot of an argument that is left out and has no default. -/
def absentSlot : ArgumentKind → Value
  | .filterQuery => filterSlot .null
  | _ => .null

/-- A value converted to the type that an argument has. -/
def convertArgument (name : String) (v : Value) (target : DataType) : Except CompileError Value :=
  match v.coerceTo? target with
  | some v => .ok v
  | none => .error (.typeCoercion name v.text target.scalarName)

/-- The arguments with a supplied one bound. -/
def bindSupplied (b : BoundArguments) (a : ArgumentDescriptor) (e : Expr) :
    Except CompileError BoundArguments := do
  let v ← evaluated e.evalClosed
  match a.kind with
  | .value type => return b.withSlot a.name (← convertArgument a.name v type)
  | .filterQuery =>
    let clauses ← decoded (clausesOfValue v)
    return { b with clauses := clauses.map FilterInput.clause }.withSlot a.name (filterSlot v)
  | .sort =>
    let spec ← decoded (decodeSort v.toJson)
    return { b with sort := spec }.withSlot a.name (sortSlot spec)
  | .page =>
    let v ← convertArgument a.name v .int
    return { b with page := v.asInt? }.withSlot a.name v
  | .pageSize =>
    let v ← convertArgument a.name v .int
    return { b with pageSize := v.asInt? }.withSlot a.name v

/-- The arguments with one more bound: as it is supplied, by its default, or left out. -/
def bindArgument (f : SchemaField) (lookup : MemberLookup) (supplied : Dict Expr) (b : BoundArguments)
    (a : ArgumentDescriptor) : Except CompileError BoundArguments :=
  match supplied? lookup supplied a.name with
  | some e => bindSupplied b a e
  | none =>
    if a.required then .error (.missingRequiredArgument f.name a.name)
    else .ok (b.withSlot a.name (a.default.getD (absentSlot a.kind)))

/-- Binds the arguments of a field in the order in which it declares them. Supplied arguments that it
does not declare are passed over. -/
def bindArguments (f : SchemaField) (lookup : MemberLookup) (supplied : Dict Expr) :
    Except CompileError BoundArguments :=
  f.arguments.foldlM (bindArgument f lookup supplied) .empty

end TypedQuery

import TypedQuery.Schema.Builder

/-!
# A sample schema and its data

A directory of people, each with an owner and pets, and the schema over it. The query type lists the
people and has the derived fields that find one by its id and that filter, sort and page the list.
-/

namespace TypedQuery.Sample

/-- The type of lists of people. -/
def peopleType : ExprType := .sequence (.object "Person")

/-- The types of the directory. -/
def types : List TypeDescriptor :=
  [⟨"Query", none, [⟨"people", peopleType⟩]⟩,
    ⟨"Person", some "Someone in the directory",
      [⟨"id", .scalar .int⟩, ⟨"name", .scalar .string⟩, ⟨"age", .scalar .int⟩,
        ⟨"born", .scalar .date⟩, ⟨"email", .scalar .string⟩, ⟨"owner", .object "Owner"⟩,
        ⟨"pets", .sequence (.object "Pet")⟩]⟩,
    ⟨"Owner", none, [⟨"name", .scalar .string⟩]⟩,
    ⟨"Pet", none, [⟨"name", .scalar .string⟩]⟩]

/-- The field that lists the people. -/
def peopleField (ctx : Parameter) : SchemaField where
  name := "people"
  description := some "Everyone in the directory"
  template := ⟨[ctx], .member ctx.expr "people" peopleType⟩
  arguments := []
  returns := ⟨"Person", true⟩

/-- The schema in the making, with all its types and fields. -/
def builder (supply : Supply) : Except SchemaError SchemaBuilder := do
  let (ctx, supply) := supply.draw "ctx" (.object "Query")
  let b ← types.foldlM SchemaBuilder.addType (.start "Query" supply)
  let b ← b.addQueryField (peopleField ctx)
  let b ← b.addIdLookupField "people" "person"
  b.addFilterQueryField "people"

/-- The schema of the directory. -/
def schema (supply : Supply) : Except SchemaError (Schema × Supply) := do
  let b ← builder supply
  return (← b.build, b.supply)

/-- A person of the directory. -/
def person (id : Int64) (name : String) (age : Int64) (born : Date) (email : Option String)
    (owner : String) : Value :=
  .ofFields [("id", .int id), ("name", .string name), ("age", .int age),
    ("born", .date born), ("email", (email.map Value.string).getD .null),
    ("owner", .ofFields [("name", .string owner)]), ("pets", .list [])]

/-- The data of the directory. -/
def directory : Value :=
  .ofFields [("people", .list
    [person 1 "Ada" 36 ⟨1815, 12, 10, by decide⟩ (some "ada@example.com") "Byron",
      person 2 "Grace" 45 ⟨1906, 12, 9, by decide⟩ (some "grace@example.com") "Hopper",
      person 3 "Linus" 9 ⟨1969, 12, 28, by decide⟩ (some "linus@example.com") "Torvalds",
      person 4 "Barbara" 10 ⟨1939, 11, 7, by decide⟩ (some "barbara@example.com") "Liskov",
      person 5 "Alan" 41 ⟨1912, 6, 23, by decide⟩ none "Turing"])]

/-- The names of the items of a list, in order; an item without a name has the empty one. -/
def names? (v : Value) : Option (List String) :=
  v.asList?.map (List.map fun item => ((item.get? "name").map Value.text).getD "")

/-- A parameter for the directory as a whole. -/
def root (supply : Supply) : Parameter × Supply := supply.draw "db" (.object "Query")

end TypedQuery.Sample

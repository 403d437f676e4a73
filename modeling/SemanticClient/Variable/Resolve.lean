import SemanticClient.Notice
import SemanticClient.Text.Split
import SemanticClient.Variable.Pool

/-!
# Variable paths

A path such as `form.org.id` names a variable. Its first key picks the pool to start in: the arguments
of the call if they have it, the ambient pool otherwise. Every further key descends one level. A path
that leads nowhere stands for its own text.

* `value_resolve`: what a path stands for.
-/

namespace SemanticClient

/-- Where paths are looked up. -/
structure Scope where
  /-- The arguments of a call, if it has any. -/
  args : Option Pool
  /-- What every call can see. -/
  ambient : Pool

namespace Variable

/-- The variable under a key of a pool, or of the pool that a producer gives. -/
def child? (k : String) : Variable → Option Variable
  | .pool entries => Keyed.get? entries k
  | .producer _ (.pool entries) => Keyed.get? entries k
  | _ => none

/-- The variable that keys lead to, one level a key. -/
def descend? (v : Variable) : List String → Option Variable
  | [] => some v
  | k :: ks => do (← v.child? k).descend? ks

/-- The variable itself, or what it gives if it is a producer. -/
def product : Variable → Variable
  | .producer _ v => v
  | v => v

end Variable

/-- The keys of a path, blanks around each removed. -/
def pathKeys (path : List Char) : List String :=
  (Text.split '.' path).map fun k => String.ofList (Text.trim k)

namespace Scope

/-- The pool that a path with this first key starts in. -/
def root (s : Scope) (first : String) : Pool :=
  match s.args with
  | some pool => if pool.contains first then pool else s.ambient
  | none => s.ambient

/-- The variable that keys lead to. -/
def find? (s : Scope) : List String → Option Variable
  | [] => none
  | k :: ks => do
    let v ← (s.root k).get? k
    return (← v.descend? ks).product

/-- What a path stands for. -/
def resolve (s : Scope) (path : List Char) : Logged Variable :=
  let path := Text.trim path
  match s.find? (pathKeys path) with
  | some v => pure v
  | none => do
    notice (.unresolved (String.ofList path))
    return .scalar (String.ofList path)

theorem value_resolve (s : Scope) (path : List Char) :
    (s.resolve path).value =
      (s.find? (pathKeys (Text.trim path))).getD (.scalar (String.ofList (Text.trim path))) := by
  simp only [resolve]
  split <;> simp_all

end Scope
end SemanticClient

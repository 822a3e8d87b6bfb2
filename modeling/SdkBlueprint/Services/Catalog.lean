import SdkBlueprint.Blueprint.Service
import SdkBlueprint.Journal

/-! The catalog of services: for every service, in the order in which they were
first seen, its operations. No two methods of a service have the same name; a
method whose name is taken gets the smallest number from two on that makes it
free. -/
namespace SdkBlueprint.Services

abbrev Catalog := Table (Table Operation)

def methodNames (operations : Table Operation) : List String :=
  operations.values.map Operation.methodName

def numbered (name : String) (n : Nat) : String := name ++ "_" ++ toString n

/-- The least number from two on whose name is free. One of as many numbers as
there are names is, once the bare name is among them. -/
def freeNumber (taken : List String) (name : String) : Nat :=
  ((List.range' 2 taken.length).find? fun n => !taken.contains (numbered name n)).getD 2

def freeName (taken : List String) (name : String) : String :=
  if taken.contains name then numbered name (freeNumber taken name) else name

def collisionMessage (service name holder newcomer renamed : String) : String :=
  s!"Operation collision in service '{service}': method '{name}' of '{holder}' already exists; '{newcomer}' renamed to '{renamed}'."

/-- The operation under the name that it gets beside the others. -/
def settled (operations : Table Operation) (o : Operation) : Operation :=
  { o with methodName := freeName (methodNames operations) o.methodName }

/-- The warning about an operation whose name another one holds. -/
def collision? (service : String) (operations : Table Operation) (o : Operation) : Option Entry :=
  (operations.values.find? fun h => h.methodName == o.methodName).map fun holder =>
    .finding .services
      ⟨.methodCollision, .warning,
        collisionMessage service o.methodName holder.operationId o.operationId
          (settled operations o).methodName,
        some o.operationId⟩

def entered (operations : Table Operation) (o : Operation) : Table Operation :=
  let settledOne := settled operations o
  operations.put settledOne.key settledOne

namespace Catalog

def operations (c : Catalog) (service : String) : Table Operation :=
  (c.get? service).getD Table.empty

def ensure (c : Catalog) (service : String) : Catalog :=
  if c.contains service then c else c.put service Table.empty

/-- Adds an operation to a service and reports if its name was taken. -/
def register (service : String) (c : Catalog) (o : Operation) : Logged Catalog := do
  let existing := Catalog.operations c service
  modify fun j => j ++ (collision? service existing o).toList
  return c.put service (entered existing o)

def services (c : Catalog) : List Service := c.entries.map fun e => ⟨e.1, e.2⟩

end Catalog
end SdkBlueprint.Services

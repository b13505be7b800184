import Orchestra.Condition.Basic

/-!
Reading of condition expressions.

An object is a list of requirements: `$and` and `$or` hold lists of conditions, any other key is a
path with the expected value or with an object of comparisons. The first fault met in order is
reported.
-/

namespace Orchestra

/-- The ways in which a condition expression is malformed. -/
inductive ConditionError where
  | notAnObject (kind : String)
  | notAList (key : String)
  | unknownOperator (name : String)
  | noOperators (path : String)
deriving DecidableEq, Repr

def ConditionError.message : ConditionError → String
  | .notAnObject kind => "Condition must be an object, got " ++ kind
  | .notAList key => key ++ " expects a list of conditions"
  | .unknownOperator name => "Unknown operator: " ++ name
  | .noOperators path => "Empty operator object for '" ++ path ++ "'"

/-- The comparison that an operator names. -/
def Comparison.ofName? (name : String) : Option Comparison :=
  [("$eq", Comparison.eq), ("$ne", .ne), ("$gt", .gt), ("$gte", .gte), ("$lt", .lt),
    ("$lte", .lte)].lookup name

namespace Condition

/-- One requirement stands for itself, several for their conjunction. -/
def join : List Condition → Condition
  | [condition] => condition
  | conditions => .all conditions

/-- The comparisons of one path. -/
def ofOperators (path : String) : Fields → Except ConditionError (List Condition)
  | [] => .ok []
  | (name, expected) :: rest =>
    match Comparison.ofName? name with
    | none => .error (.unknownOperator name)
    | some comparison => do
      return .compare comparison path expected :: (← ofOperators path rest)

mutual

/-- Reads a condition expression. -/
def ofValue : Value → Except ConditionError Condition
  | .obj fields => do return join (← ofEntries fields)
  | value => .error (.notAnObject value.kindName)

/-- Reads the list of an `$and` or `$or`. -/
def ofItems : List Value → Except ConditionError (List Condition)
  | [] => .ok []
  | item :: rest => do
    let condition ← ofValue item
    return condition :: (← ofItems rest)

/-- Reads the requirements of an object, in order. -/
def ofEntries : List (String × Value) → Except ConditionError (List Condition)
  | [] => .ok []
  | (key, value) :: rest => do
    let found ← ofEntry key value
    return found ++ (← ofEntries rest)

/-- Reads one key with its value. -/
def ofEntry (key : String) : Value → Except ConditionError (List Condition)
  | .list items =>
    if key == "$and" then do return [.all (← ofItems items)]
    else if key == "$or" then do return [.any (← ofItems items)]
    else if key.toList.head? == some '$' then .error (.unknownOperator key)
    else .ok [.field key (.list items)]
  | value =>
    if key == "$and" || key == "$or" then .error (.notAList key)
    else if key.toList.head? == some '$' then .error (.unknownOperator key)
    else
      match value with
      | .obj [] => .error (.noOperators key)
      | .obj operators => ofOperators key operators
      | expected => .ok [.field key expected]

end

end Condition

end Orchestra

import InputGuard.Schema.Store

/-!
# Validation

`Schema.validate` checks a value against a schema and gives the value as the schema passes it on.
Parts come before the whole: the items of a list and the entries of an object are checked in
order, then the value itself, each time up to the first issue. Null is a value of every schema.
-/

namespace InputGuard

/-- The visit under a schema's preferences. -/
def Visit.under (visit : Visit) (settings : Settings) : Visit :=
  { visit with prefs := visit.prefs.merge settings.overrides }

/-- Refuses a value that is not among the allowed ones. -/
def Settings.permit (settings : Settings) (visit : Visit) (v : Value) : Checked Unit :=
  match settings.allowed with
  | none => .ok ()
  | some values =>
    if v.isAmong values then .ok () else visit.refuse .anyOnly v [("valids", .list values)]

/-! ## Conversion to a kind -/

namespace Number

/-- The greatest integer up to which binary numbers hold all integers. -/
def greatestExact : Int := twoTo 53 - 1

/-- The number that a text denotes. Whole numbers become integers. -/
def ofText (visit : Visit) (s : String) : Checked Number :=
  match readDecimal? s with
  | none => visit.refuse .numberBase (.str s) []
  | some .signaling => .error (.fault .badValue)
  | some .undefined => .ok (.float .nan)
  | some (.infinity negative) => .ok (.float (.infinite negative))
  | some (.number negative d) =>
    match Binary64.ofDecimal negative d.coefficient d.exponent with
    | .finite x => .ok (if x.isInteger then .int x.truncate else .float (.finite x))
    | x => .ok (.float x)

/-- Refuses what is no number within bounds. -/
def require (visit : Visit) (anySize : Bool) (x : Number) : Checked Number :=
  match x with
  | .float .nan => visit.refuse .numberBase (.number x) []
  | .float (.infinite _) => visit.refuse .numberInfinity (.number x) []
  | _ =>
    if anySize || x.abs.le (.int greatestExact) then .ok x
    else visit.refuse .numberUnsafe (.number x) []

end Number

namespace Value

def toNumber (visit : Visit) (anySize : Bool) (v : Value) : Checked Number :=
  match v with
  | .number x => x.require visit anySize
  | .str s =>
    if visit.prefs.convert then do (← Number.ofText visit s).require visit anySize
    else visit.refuse .numberBase v []
  | _ => visit.refuse .numberBase v []

/-- The truth value that a word stands for. -/
def boolOfText? (s : String) : Option Bool :=
  match Unicode.lower (String.ofList (Unicode.trim s.toList)) with
  | "true" => some true
  | "false" => some false
  | _ => none

def toBool (visit : Visit) (v : Value) : Checked Bool :=
  match v with
  | .bool b => .ok b
  | .str s =>
    match if visit.prefs.convert then boolOfText? s else none with
    | some b => .ok b
    | none => visit.refuse .booleanBase v []
  | _ => visit.refuse .booleanBase v []

/-- Refuses a value that is no date, in the words of the format if there is one. -/
def refuseDate (visit : Visit) (format : Option DateFormat) (v : Value) : Checked Moment :=
  match format with
  | some f => visit.refuse f.issue v [("format", .str f.name)]
  | none => visit.refuse .dateBase v []

def toDate (visit : Visit) (format : Option DateFormat) (v : Value) : Checked Moment :=
  match v with
  | .moment m => orFault m.universal
  | v =>
    if !visit.prefs.convert then visit.refuse .dateBase v []
    else do
      match ← orFault (v.toMoment format) with
      | some m => return m
      | none => refuseDate visit format v

end Value

/-! ## The check of a value -/

namespace Schema

/-- Checks a value whose parts have been checked. -/
def finish (visit : Visit) (schema : Schema) (v : Value) : Checked Value :=
  match schema with
  | any settings => do
    settings.permit visit v
    return v
  | string settings rules =>
    match v with
    | .str s => do
      settings.permit visit v
      return .str (← rules.foldlM (fun s rule => rule.check visit s) s)
    | _ => visit.refuse .stringBase v []
  | number settings rules anySize => do
    let x ← v.toNumber visit anySize
    settings.permit visit (.number x)
    return .number (← rules.foldlM (fun x rule => rule.check visit x) x)
  | date settings rules format => do
    let m ← v.toDate visit format
    settings.permit visit (.moment m)
    return .moment (← rules.foldlM (fun m rule => rule.check visit m) m)
  | boolean settings => do
    let b ← v.toBool visit
    settings.permit visit (.bool b)
    return .bool b
  | array settings rules | arrayOf settings rules _ =>
    match v with
    | .list items => do
      settings.permit visit v
      return .list (← rules.foldlM (fun items rule => rule.check visit items) items)
    | _ => visit.refuse .arrayBase v []
  | object settings rules _ =>
    match v with
    | .object entries => do
      settings.permit visit v
      return .object (← rules.foldlM (fun entries rule => rule.check visit entries) entries)
    | _ => visit.refuse .objectBase v []

mutual

/-- The value as a schema passes it on. -/
def validate (store : Store) (visit : Visit) (schema : Schema) : Value → Checked Value
  | .null => .ok .null
  | .list items =>
    let visit := visit.under schema.settings
    match schema.item? with
    | some item => do
      let items ← validateItems store visit item 0 items
      schema.finish visit (.list items)
    | none => schema.finish visit (.list items)
  | .object entries =>
    let visit := visit.under schema.settings
    match schema.tree? with
    | some name => do
      let entries ← validateEntries store visit (store.tree name) entries
      schema.finish visit (.object entries)
    | none => schema.finish visit (.object entries)
  | v => schema.finish (visit.under schema.settings) v

def validateItems (store : Store) (visit : Visit) (item : Schema) (i : Nat) :
    List Value → Checked (List Value)
  | [] => .ok []
  | v :: rest => do
    let w ← validate store (visit.down (.index i)) item v
    let ws ← validateItems store visit item (i + 1) rest
    return w :: ws

/-- The entries of an object; keys that the tree lacks are kept if they may be unknown. -/
def validateEntries (store : Store) (visit : Visit) (tree : Tree) :
    List (String × Value) → Checked Entries
  | [] => .ok []
  | (key, v) :: rest => do
    let below := visit.down (.key key)
    let w ← match lookup? key tree with
      | some schema => validate store below schema v
      | none =>
        if visit.prefs.allowUnknown then .ok v else below.refuse .objectUnknown v []
    let ws ← validateEntries store visit tree rest
    return (key, w) :: ws

end

end Schema

/-- The result of a check of a value on its own. -/
def attempt (store : Store) (prefs : Preferences) (env : Environment) (schema : Schema)
    (v : Value) : Checked Value :=
  schema.validate store ⟨[], prefs, env⟩ v

end InputGuard

import InputGuard.Schema.StringRule

/-!
# Rules for objects

Most rules for objects relate the presence of keys. A key with the value null is present.
-/

namespace InputGuard

/-- A condition on how many of several keys are present. -/
inductive PeerTest
  | allOrNone
  | notAll
  | someOf
  | atMostOne
  | exactlyOne
  deriving DecidableEq, Repr

/-- The key of a dependency. Only texts are ever present; some values cannot even be looked
for. -/
inductive MainKey
  | text (name : String)
  | neverPresent
  | unusable
  deriving DecidableEq, Repr

inductive ObjectRule
  | size (test : SizeTest) (limit : Nat)
  | peers (test : PeerTest) (names : List String)
  /-- Where the key is present, so are the peers. -/
  | with_ (key : MainKey) (names : List String)
  /-- Where the key is present, none of the peers is. -/
  | without (key : MainKey) (names : List String)
  deriving DecidableEq, Repr

def PeerTest.name : PeerTest → String
  | allOrNone => "and"
  | notAll => "nand"
  | someOf => "or"
  | atMostOne => "oxor"
  | exactlyOne => "xor"

namespace ObjectRule

def name : ObjectRule → String
  | size test _ => test.name
  | peers test _ => test.name
  | with_ _ _ => "with"
  | without _ _ => "without"

def sizeIssue : SizeTest → Issue
  | .length => .objectLength
  | .max => .objectMax
  | .min => .objectMin

def present (entries : Entries) (names : List String) : List String :=
  names.filter (hasKey · entries)

def checkPeers (visit : Visit) (names : List String) (entries : Entries) :
    PeerTest → Checked Entries
  | .allOrNone =>
    let there := present entries names
    if there.isEmpty || there.length = names.length then .ok entries
    else
      visit.refuse .objectAnd (.object entries)
        [("present", .strings there),
          ("missing", .strings (names.filter fun n => !there.contains n))]
  | .notAll =>
    if (present entries names).length ≠ names.length then .ok entries
    else
      visit.refuse .objectNand (.object entries)
        [("main", .str (names.headD "")), ("peers", .strings names.tail)]
  | .someOf =>
    if !(present entries names).isEmpty then .ok entries
    else visit.refuse .objectMissing (.object entries) [("peers", .strings names)]
  | .atMostOne =>
    let there := present entries names
    if there.length ≤ 1 then .ok entries
    else
      visit.refuse .objectOxor (.object entries)
        [("peers", .strings names), ("present", .strings there)]
  | .exactlyOne =>
    let there := present entries names
    if there.isEmpty then
      visit.refuse .objectMissing (.object entries) [("peers", .strings names)]
    else if there.length ≤ 1 then .ok entries
    else
      visit.refuse .objectXor (.object entries)
        [("peers", .strings names), ("present", .strings there)]

/-- Refuses an object with the main key and the first of some keys that should not be found. -/
def refuseFirst (visit : Visit) (issue : Issue) (key : MainKey) (entries : Entries)
    (offending : String → Bool) (names : List String) : Checked Entries :=
  match key with
  | .unusable => .error (.fault .wrongType)
  | .neverPresent => .ok entries
  | .text main =>
    if !hasKey main entries then .ok entries
    else match names.find? offending with
      | none => .ok entries
      | some peer =>
        visit.refuse issue (.object entries) [("main", .str main), ("peer", .str peer)]

def check (visit : Visit) (entries : Entries) : ObjectRule → Checked Entries
  | size test limit =>
    if test.holds entries.length limit then .ok entries
    else visit.refuse (sizeIssue test) (.object entries) [("limit", .int limit)]
  | peers test names => checkPeers visit names entries test
  | with_ key names =>
    refuseFirst visit .objectWith key entries (fun n => !hasKey n entries) names
  | without key names => refuseFirst visit .objectWithout key entries (hasKey · entries) names

end ObjectRule

end InputGuard

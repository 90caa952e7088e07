/-!
# User info

A map of extensions that the interceptors of a call and its handler share. It holds at most one
value of each type; `Extension.Kind` tells the types apart.
-/

namespace RemoteCall

/-- A value that can be stored, with its type. -/
inductive Extension where
  | text (value : String)
  | whole (value : Int)
  | flag (value : Bool)
  | unit
  | texts (values : List String)
  deriving DecidableEq

/-- The types of extensions. -/
inductive Extension.Kind where
  | text
  | whole
  | flag
  | unit
  | texts
  deriving DecidableEq

def Extension.kind : Extension → Extension.Kind
  | .text _ => .text
  | .whole _ => .whole
  | .flag _ => .flag
  | .unit => .unit
  | .texts _ => .texts

/-- At most one value of each type. -/
structure UserInfo where
  entries : List Extension := []
  deriving DecidableEq

namespace UserInfo

/-- The value of a type. -/
def get? (info : UserInfo) (kind : Extension.Kind) : Option Extension :=
  info.entries.find? fun e => e.kind == kind

/-- Whether there is a value of a type. -/
def contains (info : UserInfo) (kind : Extension.Kind) : Bool := (info.get? kind).isSome

/-- Removes the value of a type. -/
def erase (info : UserInfo) (kind : Extension.Kind) : UserInfo :=
  ⟨info.entries.filter fun e => e.kind != kind⟩

/-- Stores a value in place of one of its type. -/
def insert (info : UserInfo) (e : Extension) : UserInfo := ⟨e :: (info.erase e.kind).entries⟩

/-- The number of values. -/
def size (info : UserInfo) : Nat := info.entries.length

@[simp] theorem get?_insert_self (info : UserInfo) (e : Extension) :
    (info.insert e).get? e.kind = some e := by
  simp [get?, insert]

@[simp] theorem get?_erase_self (info : UserInfo) (kind : Extension.Kind) :
    (info.erase kind).get? kind = none := by
  simp [get?, erase, List.find?_eq_none]

end UserInfo

/-- Maps of extensions under names; a clone shares the map of the name it was cloned from. -/
structure UserInfoTable where
  maps : List UserInfo := [{}]
  names : List (String × Nat) := [("a", 0)]

namespace UserInfoTable

def indexOf (t : UserInfoTable) (name : String) : Nat :=
  ((t.names.find? fun e => e.1 == name).map Prod.snd).getD 0

def map (t : UserInfoTable) (name : String) : UserInfo := (t.maps[t.indexOf name]?).getD {}

def point (t : UserInfoTable) (name : String) (index : Nat) : UserInfoTable :=
  { t with names := (name, index) :: t.names.filter fun e => e.1 != name }

/-- A fresh map under a name. -/
def create (t : UserInfoTable) (name : String) : UserInfoTable :=
  { (t.point name t.maps.length) with maps := t.maps ++ [{}] }

/-- A clone of a map under another name. -/
def clone (t : UserInfoTable) (source name : String) : UserInfoTable :=
  t.point name (t.indexOf source)

/-- Changes the map of a name, for all its clones. -/
def update (t : UserInfoTable) (name : String) (f : UserInfo → UserInfo) : UserInfoTable :=
  { t with maps := t.maps.modify (t.indexOf name) f }

end UserInfoTable

end RemoteCall

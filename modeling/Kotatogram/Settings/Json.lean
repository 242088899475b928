/-
# Settings.Json — the JSON values the settings manager writes and reads

`core/kotato_settings.cpp` builds `QJsonObject`s, writes them with `QJsonDocument::toJson`
after a comment header, and reads files back with `QJsonDocument::fromJson` after
`base::parse::stripComments`. The model keeps the values, not the text: a file holds the
document it was written from, the header stripped again, as Qt's round trip gives for
these values. The `QJsonValue` and `QJsonObject` calls follow Qt's documented semantics:
`toInt()` is 0 for anything but a number, `toString()` is empty for anything but a string,
`insert` replaces a key or adds it, and `constFind` finds a key.

* `constFind_insert_self`, `constFind_insert_ne`: a lookup after an insert.
-/
import Kotatogram.Menu.Text

namespace Kotatogram.KotatoSettings

set_option autoImplicit false

open Kotatogram.Ui (QString)

/-- `qsl("...")`: an ASCII literal as UTF-16 code units. -/
def qsl (s : String) : QString := s.toList.map fun c => c.toNat.toUInt16

/-- `QString::number(n)`: the decimal digits of `n`, after a minus sign if negative. -/
def QString.number (n : Int) : QString := qsl (toString n)

/-- A `QJsonValue`; the numbers are the integers the manager writes. -/
inductive JsonValue where
  | null
  | bool (b : Bool)
  | number (n : Int)
  | string (s : QString)
  | array (items : List JsonValue)
  | object (fields : List (QString × JsonValue))
  deriving Repr

/-- A `QJsonObject`: its members, each key once. -/
abbrev JsonObject := List (QString × JsonValue)

namespace JsonValue

/-- `toInt()`: the number, or the default 0 for a value of any other type. -/
def toInt : JsonValue → Int
  | number n => n
  | _ => 0

/-- `isString()`. -/
def isString : JsonValue → Bool
  | string _ => true
  | _ => false

/-- `toString()`: the string, or the empty default. -/
def toString : JsonValue → QString
  | string s => s
  | _ => []

/-- `isBool()`. -/
def isBool : JsonValue → Bool
  | bool _ => true
  | _ => false

/-- `toBool()`: the boolean, or the default `false`. -/
def toBool : JsonValue → Bool
  | bool b => b
  | _ => false

/-- `isObject()`. -/
def isObject : JsonValue → Bool
  | object _ => true
  | _ => false

/-- `toObject()`: the members, or the empty object. -/
def toObject : JsonValue → JsonObject
  | object fields => fields
  | _ => []

end JsonValue

/-- `object.insert(key, value)`: replaces the member with that key, or adds one. -/
def insert (key : QString) (value : JsonValue) : JsonObject → JsonObject
  | [] => [(key, value)]
  | (k, v) :: rest => if k = key then (key, value) :: rest else (k, v) :: insert key value rest

/-- `object.constFind(key)`, with `constEnd()` as `none`. -/
def constFind (key : QString) : JsonObject → Option JsonValue
  | [] => none
  | (k, v) :: rest => if k = key then some v else constFind key rest

@[simp] theorem constFind_insert_self (key : QString) (value : JsonValue) :
    ∀ object : JsonObject, constFind key (insert key value object) = some value
  | [] => by simp [insert, constFind]
  | (k, v) :: rest => by
      by_cases same : k = key
      · simp [insert, constFind, same]
      · simp [insert, constFind, same, constFind_insert_self key value rest]

theorem constFind_insert_ne {key other : QString} (value : JsonValue) (ne : key ≠ other) :
    ∀ object : JsonObject, constFind other (insert key value object) = constFind other object
  | [] => by simp [insert, constFind, ne]
  | (k, v) :: rest => by
      by_cases same : k = key
      · subst same; simp [insert, constFind, ne]
      · by_cases found : k = other
        · subst found; simp [insert, constFind, same]
        · simp [insert, constFind, same, found, constFind_insert_ne value ne rest]

end Kotatogram.KotatoSettings

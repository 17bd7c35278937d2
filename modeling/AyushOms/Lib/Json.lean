import Mathlib.Data.List.Basic
import Mathlib.Data.Rat.Defs

/-!
# JSON Values

JSON as a program reads it after decoding: an object is the list of its fields, and a number
that is not an integer is the text it prints as. A value built by the program may also hold a
decimal number it has printed, kept as the number itself. The texts of a value are its string
leaves, the nested ones included; keys are not among them.

## Main results

- `Json.texts_mapTexts`: a function applied to every text
-/

namespace AyushOms.Lib

inductive Json where
  | null
  | bool (value : Bool)
  | int (value : Int)
  | float (text : String)
  | decimal (value : ℚ)
  | str (text : String)
  | arr (values : List Json)
  | obj (fields : List (String × Json))

namespace Json

/-! ## Section 1: Texts -/

mutual

/-- The string leaves of a value. -/
def texts : Json → List String
  | str text => [text]
  | arr values => textsOfValues values
  | obj fields => textsOfFields fields
  | null | bool _ | int _ | float _ | decimal _ => []

def textsOfValues : List Json → List String
  | [] => []
  | value :: rest => texts value ++ textsOfValues rest

def textsOfFields : List (String × Json) → List String
  | [] => []
  | (_, value) :: rest => texts value ++ textsOfFields rest

end

mutual

/-- Every string leaf replaced; keys, order and all other values stay. -/
def mapTexts (f : String → String) : Json → Json
  | str text => str (f text)
  | arr values => arr (mapTextsOfValues f values)
  | obj fields => obj (mapTextsOfFields f fields)
  | null => null
  | bool value => bool value
  | int value => int value
  | float text => float text
  | decimal value => decimal value

def mapTextsOfValues (f : String → String) : List Json → List Json
  | [] => []
  | value :: rest => mapTexts f value :: mapTextsOfValues f rest

def mapTextsOfFields (f : String → String) : List (String × Json) → List (String × Json)
  | [] => []
  | (key, value) :: rest => (key, mapTexts f value) :: mapTextsOfFields f rest

end

mutual

theorem texts_mapTexts (f : String → String) : ∀ j : Json, (j.mapTexts f).texts = j.texts.map f
  | str text => by simp [mapTexts, texts]
  | arr values => by
    simp only [mapTexts, texts]
    exact textsOfValues_mapTexts f values
  | obj fields => by
    simp only [mapTexts, texts]
    exact textsOfFields_mapTexts f fields
  | null => by simp [mapTexts, texts]
  | bool value => by simp [mapTexts, texts]
  | int value => by simp [mapTexts, texts]
  | float text => by simp [mapTexts, texts]
  | decimal value => by simp [mapTexts, texts]

theorem textsOfValues_mapTexts (f : String → String) : ∀ values : List Json,
    textsOfValues (mapTextsOfValues f values) = (textsOfValues values).map f
  | [] => by simp [mapTextsOfValues, textsOfValues]
  | value :: rest => by
    simp only [mapTextsOfValues, textsOfValues, List.map_append]
    rw [texts_mapTexts f value, textsOfValues_mapTexts f rest]

theorem textsOfFields_mapTexts (f : String → String) : ∀ fields : List (String × Json),
    textsOfFields (mapTextsOfFields f fields) = (textsOfFields fields).map f
  | [] => by simp [mapTextsOfFields, textsOfFields]
  | (key, value) :: rest => by
    simp only [mapTextsOfFields, textsOfFields, List.map_append]
    rw [texts_mapTexts f value, textsOfFields_mapTexts f rest]

end

end Json

end AyushOms.Lib

import ScriptTree.Type.Value
/-!
# Filter and reducer functions

The two closed sets of functions that filter and reducer arguments choose from. A script holds the
code of a function, a tree shows its name; both determine the function.
-/

namespace ScriptTree

/-- A function that an argument of kind `filter` applies. -/
inductive Filter where
  | greaterThan
  | lessThan
  | equals
  | deviationAbsolute
  | deviationRelative
  | deviationStandard
  | top
  | bottom
  | lessOrEqualThan
  | greaterOrEqualThan
  | notEquals
  | notDeviationAbsolute
  | notDeviationRelative
  | notDeviationStandard
  | notTop
  | notBottom
deriving DecidableEq, Repr

namespace Filter

/-- Every filter, in the order in which they are offered. -/
def all : List Filter :=
  [.greaterThan, .lessThan, .equals, .deviationAbsolute, .deviationRelative, .deviationStandard,
    .top, .bottom, .lessOrEqualThan, .greaterOrEqualThan, .notEquals, .notDeviationAbsolute,
    .notDeviationRelative, .notDeviationStandard, .notTop, .notBottom]

/-- The code of a filter; the negations start at `0x80`. -/
def code : Filter → UInt8
  | .greaterThan => 0x00
  | .lessThan => 0x01
  | .equals => 0x02
  | .deviationAbsolute => 0x03
  | .deviationRelative => 0x04
  | .deviationStandard => 0x05
  | .top => 0x06
  | .bottom => 0x07
  | .lessOrEqualThan => 0x80
  | .greaterOrEqualThan => 0x81
  | .notEquals => 0x82
  | .notDeviationAbsolute => 0x83
  | .notDeviationRelative => 0x84
  | .notDeviationStandard => 0x85
  | .notTop => 0x86
  | .notBottom => 0x87

/-- The name of a filter. -/
def name : Filter → String
  | .greaterThan => "greaterThan"
  | .lessThan => "lessThan"
  | .equals => "equals"
  | .deviationAbsolute => "deviationAbsolute"
  | .deviationRelative => "deviationRelative"
  | .deviationStandard => "deviationStandard"
  | .top => "top"
  | .bottom => "bottom"
  | .lessOrEqualThan => "lessOrEqualThan"
  | .greaterOrEqualThan => "greaterOrEqualThan"
  | .notEquals => "notEquals"
  | .notDeviationAbsolute => "notDeviationAbsolute"
  | .notDeviationRelative => "notDeviationRelative"
  | .notDeviationStandard => "notDeviationStandard"
  | .notTop => "notTop"
  | .notBottom => "notBottom"

/-- The filter with a code. -/
def ofCode? (code : UInt64) : Option Filter :=
  all.find? fun f => f.code.toUInt64 = code

/-- The filter with a name; the case of letters matters. -/
def ofName? (name : String) : Option Filter :=
  all.find? fun f => f.name = name

theorem ofCode?_code (f : Filter) : ofCode? f.code.toUInt64 = some f := by cases f <;> decide

theorem ofName?_name (f : Filter) : ofName? f.name = some f := by cases f <;> decide

end Filter

/-- A function that an argument of kind `reducer` applies. -/
inductive Reducer where
  | min
  | max
  | mode
  | averageMean
  | averageMeanWeighted
  | averageMedian
  | averageMedianWeighted
  | deviationStandard
  | deviationAverage
  | deviationMedian
  | deviationMaximum
deriving DecidableEq, Repr

namespace Reducer

/-- Every reducer, in the order in which they are offered. -/
def all : List Reducer :=
  [.min, .max, .mode, .averageMean, .averageMeanWeighted, .averageMedian, .averageMedianWeighted,
    .deviationStandard, .deviationAverage, .deviationMedian, .deviationMaximum]

/-- The code of a reducer. -/
def code : Reducer → UInt8
  | .min => 0x00
  | .max => 0x01
  | .mode => 0x02
  | .averageMean => 0x03
  | .averageMeanWeighted => 0x04
  | .averageMedian => 0x05
  | .averageMedianWeighted => 0x06
  | .deviationStandard => 0x07
  | .deviationAverage => 0x08
  | .deviationMedian => 0x09
  | .deviationMaximum => 0x0a

/-- The name of a reducer. -/
def name : Reducer → String
  | .min => "min"
  | .max => "max"
  | .mode => "mode"
  | .averageMean => "averageMean"
  | .averageMeanWeighted => "averageMeanWeighted"
  | .averageMedian => "averageMedian"
  | .averageMedianWeighted => "averageMedianWeighted"
  | .deviationStandard => "deviationStandard"
  | .deviationAverage => "deviationAverage"
  | .deviationMedian => "deviationMedian"
  | .deviationMaximum => "deviationMaximum"

/-- The reducer with a code. -/
def ofCode? (code : UInt64) : Option Reducer :=
  all.find? fun r => r.code.toUInt64 = code

/-- The reducer with a name; the case of letters matters. -/
def ofName? (name : String) : Option Reducer :=
  all.find? fun r => r.name = name

theorem ofCode?_code (r : Reducer) : ofCode? r.code.toUInt64 = some r := by cases r <;> decide

theorem ofName?_name (r : Reducer) : ofName? r.name = some r := by cases r <;> decide

end Reducer

end ScriptTree

/-
Mean and sample standard deviation over an ordered field.

The square root is a parameter: over the reals it is the exact root, over the
rationals any rounding of it.  Nothing below depends on which root is supplied.
-/

import Mathlib.Algebra.BigOperators.Group.List.Basic
import Mathlib.Algebra.Field.Defs

namespace SampleStatistics

variable {K : Type} [Field K]

def mean (values : List K) : K :=
  values.sum / values.length

def variance (values : List K) : K :=
  (values.map (fun value => (value - mean values) ^ 2)).sum / (values.length - 1)

def stdev (sqrt : K → K) (values : List K) : K :=
  sqrt (variance values)

end SampleStatistics

/-!
Powers of natural numbers and of integers.

They are the core library's wherever a module stands: the power of a monoid has the same values but
is a different term, so a definition would otherwise depend on what else its module imports.
-/

namespace SuiteSplit

attribute [scoped instance (1100)] instPowNat
attribute [default_instance high + 1] instPowNat

end SuiteSplit

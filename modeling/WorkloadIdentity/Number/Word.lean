/-!
How many numbers the words of a machine hold, which is where the ranges of settings and lengths
end.
-/

namespace WorkloadIdentity

/-- The number of words of 32 bits. -/
abbrev word32 : Nat := 4294967296

/-- The number of words of 64 bits. -/
abbrev word64 : Nat := 18446744073709551616

/-- The number of signed words of 64 bits that are not negative. -/
abbrev signedWord64 : Nat := 9223372036854775808

/-- The number of words of 128 bits. -/
abbrev word128 : Nat := 340282366920938463463374607431768211456

/-- The number of signed words of 128 bits that are not negative. -/
abbrev signedWord128 : Nat := 170141183460469231731687303715884105728

end WorkloadIdentity

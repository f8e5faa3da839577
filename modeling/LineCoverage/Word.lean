/-! # The bounds of 64-bit numbers -/

namespace LineCoverage

abbrev wordLimit : Nat := 0x10000000000000000

abbrev signedLimit : Nat := 0x8000000000000000

end LineCoverage

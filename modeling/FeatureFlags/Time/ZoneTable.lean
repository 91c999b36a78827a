namespace FeatureFlags.Time

/-- How far a clock is ahead of universal time: the seconds at first, then for each change its
second in universal time and the seconds ahead from then on. -/
structure Offsets where
  initial : Int
  changes : List (Int × Int)
deriving DecidableEq

namespace ZoneTable

def digits (base : Nat) : (fuel : Nat) → Nat → List Nat → List Nat
  | 0, _, lower => lower
  | fuel + 1, n, lower =>
    if n = 0 then lower else digits base fuel (n / base) (n % base :: lower)

/-- Seasons one after another, their lengths in eight decimal digits each. -/
def unpacked (packed : List Nat) : List Nat :=
  packed.flatMap fun n => digits 100000000 10 n []

structure Seasons where
  lengths : List Nat
  spaced : ∀ length ∈ lengths, 172800 ≤ length

inductive Stretch where
  /-- Ten decimal digits for the seconds since the change before, and one for the place of the
  offset. -/
  | singly (packed : List Nat)
  /-- To two offsets in turn, as in some other place. -/
  | alternating (one other : Nat) (seasons : Seasons) (start stop : Nat)

def turns (one other : Nat) : List Nat → List (Nat × Nat)
  | [] => []
  | length :: rest => (length, one) :: turns other one rest

def Stretch.changes : Stretch → List (Nat × Nat)
  | singly packed =>
    packed.flatMap fun n => (digits 100000000000 10 n []).map fun m => (m / 10, m % 10)
  | alternating one other seasons start stop => turns one other (seasons.lengths.extract start stop)

/-- A zone from the start of 1800 on; nothing changes after 2099. -/
structure Row where
  names : List String
  offsets : List Int
  stretches : List Stretch

namespace Row

def changesFrom (row : Row) (time : Nat) : List (Nat × Nat) → List (Int × Int)
  | [] => []
  | (length, place) :: rest =>
    ((time + length : Nat) - 5364662400, row.offsets.getD place 0) ::
      row.changesFrom (time + length) rest

def history (row : Row) : Offsets :=
  ⟨row.offsets.headD 0, row.changesFrom 0 (row.stretches.flatMap Stretch.changes)⟩

end Row

def northAmerican : Seasons where
  lengths := unpacked [
    77418060_25311540_41817600_12700800_18748800_13305600_18144000_13305600_18144000_13305600,
    18144000_13305600_18144000_13305600_18748800_13305600_18144000_13305600_18144000_13305600,
    18144000_13305600_18144000_13305600_18748800_12700800_18748800_15724800_15724800_15724800,
    15724800_15724800_15724800_16329600_15120000_16329600_15728400_15721200_15728400_15721200,
    15728400_15721200_15728400_15721200_15728400_16326000_15728400_15721200_15728400_15721200,
    6051600_25398000_10285200_21164400_15728400_16326000_15123600_16326000_15728400_15721200,
    15728400_15721200_15728400_15721200_15728400_15721200_15728400_16326000_15123600_16326000,
    15728400_15721200_15728400_15721200_15728400_15721200_13914000_17535600_13914000_18140400,
    13309200_18140400_13309200_18140400_13914000_17535600_13914000_17535600_13914000_18140400,
    13309200_18140400_13309200_18140400_13914000_17535600_13914000_17535600_13914000_17535600,
    13914000_18140400_13309200_18140400_13309200_18140400_13914000_17535600_13914000_17535600,
    13914000_18140400_13309200_18140400_13309200_18140400_11494800_20559600_10890000_20559600,
    10890000_20559600_11494800_20559600_10890000_20559600_10890000_20559600_10890000_20559600,
    10890000_20559600_10890000_20559600_11494800_20559600_10890000_20559600_10890000_20559600,
    10890000_20559600_10890000_20559600_11494800_20559600_10890000_20559600_10890000_20559600,
    10890000_20559600_10890000_20559600_10890000_20559600_11494800_20559600_10890000_20559600,
    10890000_20559600_10890000_20559600_10890000_20559600_11494800_20559600_10890000_20559600,
    10890000_20559600_10890000_20559600_10890000_20559600_10890000_20559600_11494800_20559600,
    10890000_20559600_10890000_20559600_10890000_20559600_10890000_20559600_10890000_20559600,
    11494800_20559600_10890000_20559600_10890000_20559600_10890000_20559600_10890000_20559600,
    11494800_20559600_10890000_20559600_10890000_20559600_10890000_20559600_10890000_20559600,
    10890000_20559600_11494800_20559600_10890000_20559600_10890000_20559600_10890000_20559600,
    10890000_20559600_11494800_20559600_10890000_20559600_10890000_20559600_10890000_20559600,
    10890000_20559600_10890000_20559600_11494800_20559600_10890000_20559600_10890000_20559600,
    10890000_20559600_10890000_20559600_10890000_20559600_11494800_20559600_10890000_20559600,
    10890000_20559600_10890000_20559600_10890000_20559600_11494800_20559600_10890000_20559600,
    10890000_20559600_10890000_20559600_10890000_20559600_10890000_20559600_11494800_20559600,
    10890000_20559600_10890000_20559600_10890000_20559600_10890000_20559600_11494800_20559600,
    10890000_20559600_10890000_20559600_10890000_20559600_10890000_20559600_10890000_20559600,
    11494800_20559600_10890000_20559600_10890000_20559600_10890000_20559600_10890000_20559600,
    10890000_20559600]
  spaced := by decide +kernel

def european : Seasons where
  lengths := unpacked [
    10882800_21171600_10281600_21168000_10281600_21772800_10281600_21168000_10281600_20563200,
    10886400_21168000_10886400_15638400_15724800_17625600_12787200_18669600_13302000_18147600,
    13302000_18147600_13302000_18147600_13302000_18147600_13302000_17024400_15030000_16333200,
    15724800_15724800_15724800_15724800_15724800_15724800_16329600_15724800_15724800_15724800,
    15724800_15724800_15724800_15724800_15724800_15724800_15724800_15724800_16329600_15724800,
    15724800_15724800_15724800_15724800_15724800_15724800_15724800_15724800_15724800_16329600,
    18144000_13305600_18144000_13305600_18144000_13305600_18748800_12700800_18748800_12700800,
    18748800_13305600_18144000_13305600_18144000_13305600_18748800_12700800_18748800_12700800,
    18748800_12700800_18748800_13305600_18144000_13305600_18144000_13305600_18748800_12700800,
    18748800_12700800_18748800_13305600_18144000_13305600_18144000_13305600_18144000_13305600,
    18748800_12700800_18748800_12700800_18748800_13305600_18144000_13305600_18144000_13305600,
    18748800_12700800_18748800_12700800_18748800_13305600_18144000_13305600_18144000_13305600,
    18144000_13305600_18748800_12700800_18748800_12700800_18748800_13305600_18144000_13305600,
    18144000_13305600_18748800_12700800_18748800_12700800_18748800_12700800_18748800_13305600,
    18144000_13305600_18144000_13305600_18748800_12700800_18748800_12700800_18748800_13305600,
    18144000_13305600_18144000_13305600_18144000_13305600_18748800_12700800_18748800_12700800,
    18748800_13305600_18144000_13305600_18144000_13305600_18748800_12700800_18748800_12700800,
    18748800_13305600_18144000_13305600_18144000_13305600_18144000_13305600_18748800_12700800,
    18748800_12700800_18748800_13305600_18144000_13305600_18144000_13305600_18748800_12700800,
    18748800_12700800_18748800_12700800_18748800_13305600_18144000_13305600_18144000_13305600,
    18748800_12700800_18748800_12700800_18748800_13305600_18144000_13305600_18144000_13305600,
    18144000_13305600_18748800_12700800_18748800_12700800_18748800_13305600_18144000_13305600,
    18144000_13305600_18748800_12700800_18748800_12700800_18748800_13305600_18144000_13305600,
    18144000_13305600_18144000_13305600_18748800_12700800_18748800_12700800_18748800_13305600,
    18144000_13305600_18144000_13305600_18748800_12700800_18748800_12700800_18748800_12700800,
    18748800_13305600_18144000_13305600_18144000_13305600_18748800_12700800_18748800_12700800,
    18748800_13305600_18144000_13305600_18144000_13305600_18144000]
  spaced := by decide +kernel

def palestinian : Seasons where
  lengths := unpacked [
    9676800_19958400_12092400_22381200_09673200_19011600_13042800_18147600_12697200_20566800,
    10882800_17542800_13302000_18147600_13906800_18147600_13906800_17974800_13474800_17974800,
    12870000_18579600_13474800_18579600_14515200_16934400_14515200_16934400_14515200_18144000,
    15721200_16333200_15721200_15728400_15721200_15728400_15721200_15728400_15721200_15728400,
    14515200_16934400_14864400_15462000_15030000_16506000_14259600_17017200_13561200_17888400,
    13910400_17539200_11919600_20134860_10537140_02509200_02674800_15728400_15120000_16329600,
    15721200_15728400_18140400_13395600_18057600_13395600_18745200_12704400_18745200_12704400,
    18745200_13219200_18226800_13309200_18144000_13305600_18662400_12873600_18666000_15728400,
    15721200_15123600_16326000_14518800_16930800_13309200_18140400_13309200_18745200_12704400,
    18745200_12704400_18745200_13309200_18140400_13309200_18140400_13309200_18745200_12704400,
    18745200_12704400_18745200_12704400_18745200_13309200_17535600_13914000_16930800_14518800,
    15721200_15728400_15116400_16333200_13906800_04237200_00601200_13309200_12697200_03632400,
    1810800_13309200_12092400_03632400_02415600_13309200_10882800_04237200_03020400_13309200,
    10278000_03632400_04834800_12704400_09673200_03632400_05439600_12704400_08463600_04237200,
    6044400_13309200_07254000_03632400_07254000_13309200_06044400_04237200_07858800_13309200,
    5439600_03632400_09673200_12704400_04834800_03632400_10278000_12704400_03625200_04237200,
    10882800_13309200_02415600_03632400_12092400_13309200_01206000_04237200_12697200_13309200,
    601200_04237200_13302000_16938000_15116400_15728400_15721200_14518800_16930800_13914000,
    17535600_13309200_18140400_13309200_18745200_12704400_18745200_12704400_18745200_12704400,
    18745200_13309200_18140400_13309200_18140400_13309200_18745200_12704400_18745200_12704400,
    18140400_13914000_16930800_14518800_16326000_15123600_15116400_16333200_14511600_03632400,
    601200_12704400_13906800_03632400_01206000_12704400_12697200_04237200_01810800_13309200,
    11487600_03632400_03020400_13309200_10278000_04237200_03625200_13309200_09673200_04237200,
    4834800_12704400_09068400_03632400_06044400_12704400_07858800_04237200_06649200_13309200,
    6649200_03632400_07858800_13309200_06044400_03632400_08463600_13309200_04834800_04237200,
    9068400_13309200_04230000_03632400_10882800_12704400_03020400_04237200_11487600_12704400,
    2415600_04237200_12092400_13309200_01206000_03632400_13302000_13309200_18140400_13309200,
    18745200_12704400_18745200_12704400_18745200_12704400_18745200_13309200_18140400_13309200,
    18140400_13309200_18745200_12704400_18745200_12704400_18745200_13309200_18140400_13309200,
    18140400_13309200_18140400]
  spaced := by decide +kernel

def tasmanian : Seasons where
  lengths := unpacked [
    15724800_18144000_11491200_19958400_11491200_19958400_12096000_19958400_10281600_21168000,
    10886400_20563200_10886400_20563200_10886400_20563200_11491200_20563200_10886400_20563200,
    10886400_20563200_10886400_20563200_10886400_20563200_10886400_20563200_13305600_18748800,
    12700800_18748800_10886400_20563200_10886400_20563200_10886400_19958400_12700800_19353600,
    12700800_19353600_12096000_19353600_12096000_19353600_13305600_16329600_15120000_16329600,
    15120000_16329600_15120000_16329600_15120000_16329600_15724800_16329600_15120000_16329600,
    15120000_16329600_15120000_16329600_15120000_13305600_18144000_16934400_15120000_16329600,
    15120000_16329600_15120000_16329600_15120000_16329600_15724800_15724800_15120000_16934400,
    15724800_15724800_15724800_15724800_15724800_15724800_15724800_15724800_15724800_16329600,
    15724800_15724800_15724800_15724800_15724800_15724800_15724800_15724800_15724800_15724800,
    15724800_16329600_15724800_15724800_15724800_15724800_15724800_15724800_15724800_15724800,
    15724800_15724800_16329600_15724800_15724800_15724800_15724800_15724800_15724800_15724800,
    15724800_15724800_15724800_16329600_15724800_15724800_15724800_15724800_15724800_15724800,
    15724800_15724800_15724800_15724800_15724800_16329600_15724800_15724800_15724800_15724800,
    15724800_15724800_15724800_15724800_15724800_16329600_15724800_15724800_15724800_15724800,
    15724800_15724800_15724800_15724800_15724800_15724800_15724800_16329600_15724800_15724800,
    15724800_15724800_15724800_15724800_15724800_15724800_15724800_15724800_16329600_15724800,
    15724800_15724800_15724800_15724800_15724800_15724800_15724800_15724800_15724800_16329600,
    15724800_15724800_15724800_15724800_15724800_15724800_15724800_15724800_15724800_15724800,
    15724800_16329600_15724800_15724800_15724800_15724800_15724800_15724800_15724800_15724800,
    15724800_16329600_15724800_15724800_15724800_15724800_15724800_15724800_15724800_15724800,
    15724800_15724800_15724800_16329600_15724800_15724800_15724800_15724800_15724800_15724800,
    15724800_15724800_15724800_15724800_16329600_15724800_15724800_15724800_15724800_15724800,
    15724800_15724800_15724800_15724800_15724800_16329600_15724800_15724800_15724800_15724800,
    15724800_15724800_15724800_15724800_15724800_15724800_15724800_16329600_15724800_15724800,
    15724800_15724800_15724800_15724800_15724800_15724800_15724800_16329600_15724800_15724800,
    15724800_15724800_15724800_15724800]
  spaced := by decide +kernel

def brazilian : Seasons where
  lengths := unpacked [
    11487600_19357200_09673200_21862800_09068400_21776400_09068400_22381200_10278000_21776400,
    10278000_21171600_09673200_22381200_08463600_22381200_10882800_20566800_10882800_20566800,
    10278000_20566800_11487600_20048400_12610800_19357200_11487600_19357200_12697200_19357200,
    11487600_20566800_10882800_22381200_09068400_21171600_10278000_22554000_09500400_20566800,
    10882800_22381200_09673200_19962000_10882800_21171600_10278000_21171600_10882800_20566800,
    10882800_20566800_11487600_20566800_10278000_21171600_10278000_21171600_10882800_20566800,
    10882800_20566800_10882800_20566800_10882800_22381200_09068400]
  spaced := by decide +kernel

def chilean : Seasons where
  lengths := unpacked [
    12697200_20566800_10882800_16938000_13302000_18147600_13302000_18752400_12697200_17542800,
    13906800_18752400_12697200_18752400_13302000_18147600_13302000_18147600_13302000_18752400,
    12697200_18752400_12697200_18752400_13302000_18147600_13302000_18147600_13302000_18147600,
    13302000_18752400_12697200_18752400_12697200_18752400_15721200_15728400_13302000_18147600,
    13302000_18752400_12697200_16333200_15116400_18752400_13302000_18147600_13302000_18147600,
    13302000_18147600_13302000_18752400_12697200_18752400_14511600_16938000_13302000_16938000,
    16326000_16333200_13302000_18752400_12697200_18752400_12697200_18752400_12697200_18752400,
    13302000_18147600_13302000_18147600_13302000_18752400_12697200_18752400_14511600_16938000,
    13302000_18147600_15116400_16333200_18140400_09075600_21769200_10890000_20559600_11494800,
    19954800_11494800_53218800_07866000_23583600_07866000_23583600_07866000_20559600_13309200,
    18140400_13309200_18140400_13309200_18140400_13914000_17535600_13309200_18745200_13309200,
    18140400_13309200_18140400_13309200_18140400_13309200_18140400_13309200_18745200_12704400,
    18745200_13309200_18140400_13309200_18140400_13309200_18140400_13309200_18140400_13309200,
    18745200_12704400_18745200_13309200_18140400_13309200_18140400_13309200_18140400_13309200,
    18745200_12704400_18745200_13309200_18140400_13309200_18140400_13309200_18140400_13309200,
    18140400_13309200_18745200_12704400_18745200_13309200_18140400_13309200_18140400_13309200,
    18140400_13309200_18140400_13309200_18745200_13309200_18140400_13309200_18140400_13309200,
    18140400_13309200_18140400_13309200_18745200_12704400_18745200_13309200_18140400_13309200,
    18140400_13309200_18140400_13309200_18140400_13309200_18745200_12704400_18745200_13309200,
    18140400_13309200_18140400_13309200_18140400_13309200_18745200_12704400_18745200_13309200,
    18140400_13309200_18140400_13309200_18140400_13309200_18140400_13309200_18745200_12704400,
    18745200_13309200_18140400_13309200_18140400_13309200_18140400_13309200_18140400_13309200,
    18745200_13309200_18140400_13309200_18140400_13309200_18140400_13309200_18140400_13309200,
    18745200_12704400_18745200_13309200_18140400_13309200_18140400_13309200_18140400_13309200,
    18140400_13309200_18745200_12704400_18745200_13309200_18140400_13309200_18140400_13309200,
    18140400_13309200_18745200_12704400_18745200_13309200_18140400_13309200_18140400_13309200]
  spaced := by decide +kernel

def argentine : Seasons where
  lengths := unpacked [
    10450800_17024400_11919600_21171600_10364400_21171600_10364400_21171600_10364400_21171600,
    10450800_21171600_10364400_21171600_10364400_21171600_10364400_21171600_10450800_10544400,
    30150000_10544400_56588400_06483600_74991600_18493200]
  spaced := by decide +kernel

def soviet : Seasons where
  lengths := unpacked [
    15807600_15728400_15807600_15728400_15807600_15814800_15732000_15724800_15724800_15724800,
    15724800_15724800_15724800_15724800_15724800_15724800_15724800_15724800_16329600]
  spaced := by decide +kernel

def israeli : Seasons where
  lengths := unpacked [
    9676800_19958400_12092400_22381200_09673200_19011600_13042800_18147600_12697200_20566800,
    10882800_17542800_13302000_18147600_13906800_18147600_13906800_17974800_13474800_17974800,
    12870000_18579600_13474800_16765200_15980400_16074000_15289200_16160400_14684400_17982000,
    13302000_19357200_15112800_15987600_14511600_16074000_16585200_14864400_16326000_16160400,
    14511600_16509600_16498800_14950800_15894000_15555600_14684400_16765200_16498800_14950800,
    15894000_15555600_14684400_17370000_15894000_15555600_15289200_16160400_18313200_13136400,
    18313200_13136400_18313200_13136400_18918000_12531600_18918000_12531600_18918000_13136400,
    18313200_13136400_18313200_13136400_18918000_12531600_18918000_12531600_18918000_13136400,
    18313200_13136400_18313200_13136400_18313200_13136400_18918000_12531600_18918000_12531600,
    18918000_13136400_18313200_13136400_18313200_13136400_18918000_12531600_18918000_12531600,
    18918000_12531600_18918000_13136400_18313200_13136400_18313200_13136400_18918000_12531600,
    18918000_12531600_18918000_13136400_18313200_13136400_18313200_13136400_18313200_13136400,
    18918000_12531600_18918000_12531600_18918000_13136400_18313200_13136400_18313200_13136400,
    18918000_12531600_18918000_12531600_18918000_13136400_18313200_13136400_18313200_13136400,
    18313200_13136400_18918000_12531600_18918000_12531600_18918000_13136400_18313200_13136400,
    18313200_13136400_18918000_12531600_18918000_12531600_18918000_12531600_18918000_13136400,
    18313200_13136400_18313200_13136400_18918000_12531600_18918000_12531600_18918000_13136400,
    18313200_13136400_18313200_13136400_18313200_13136400_18918000_12531600_18918000_12531600,
    18918000_13136400_18313200_13136400_18313200_13136400_18918000_12531600_18918000_12531600,
    18918000_13136400_18313200_13136400_18313200_13136400_18313200_13136400_18918000_12531600,
    18918000_12531600_18918000_13136400_18313200_13136400_18313200_13136400_18918000_12531600,
    18918000_12531600_18918000_12531600_18918000_13136400_18313200_13136400_18313200_13136400,
    18918000_12531600_18918000_12531600_18918000_13136400_18313200_13136400_18313200_13136400,
    18313200]
  spaced := by decide +kernel

def lordHowe : Seasons where
  lengths := unpacked [
    20566800_12094200_18750600_12699000_19355400_12699000_19355400_12094200_19355400_10884600,
    20565000_10884600_20565000_10884600_20565000_11489400_20565000_10884600_20565000_10884600,
    20565000_13303800_18145800_13303800_18145800_13303800_18145800_13303800_18750600_12699000,
    13307400_18142200_18750600_13303800_18145800_13303800_18145800_13303800_18750600_12699000,
    18750600_13303800_18145800_12699000_18750600_13908600_15726600_15723000_15726600_15723000,
    15726600_15723000_15726600_15723000_16331400_15723000_15726600_15723000_15726600_15723000,
    15726600_15723000_15726600_15723000_15726600_15723000_16331400_15723000_15726600_15723000,
    15726600_15723000_15726600_15723000_15726600_15723000_15726600_16327800_15726600_15723000,
    15726600_15723000_15726600_15723000_15726600_15723000_15726600_15723000_16331400_15723000,
    15726600_15723000_15726600_15723000_15726600_15723000_15726600_15723000_15726600_15723000,
    16331400_15723000_15726600_15723000_15726600_15723000_15726600_15723000_15726600_15723000,
    16331400_15723000_15726600_15723000_15726600_15723000_15726600_15723000_15726600_15723000,
    15726600_15723000_16331400_15723000_15726600_15723000_15726600_15723000_15726600_15723000,
    15726600_15723000_15726600_16327800_15726600_15723000_15726600_15723000_15726600_15723000,
    15726600_15723000_15726600_15723000_16331400_15723000_15726600_15723000_15726600_15723000,
    15726600_15723000_15726600_15723000_15726600_15723000_16331400_15723000_15726600_15723000,
    15726600_15723000_15726600_15723000_15726600_15723000_16331400_15723000_15726600_15723000,
    15726600_15723000_15726600_15723000_15726600_15723000_15726600_15723000_16331400_15723000,
    15726600_15723000_15726600_15723000_15726600_15723000_15726600_15723000_15726600_16327800,
    15726600_15723000_15726600_15723000_15726600_15723000_15726600_15723000_15726600_15723000,
    16331400_15723000_15726600_15723000_15726600_15723000_15726600_15723000_15726600_15723000,
    15726600_15723000_16331400_15723000_15726600_15723000_15726600_15723000_15726600_15723000,
    15726600_15723000_16331400_15723000_15726600_15723000_15726600_15723000_15726600]
  spaced := by decide +kernel

def moroccan : Seasons where
  lengths := unpacked [
    7945200_23590800_06994800_21949200_08463600_20566800_10278000_23598000_07084800_02678400,
    3542400_18144000_06048000_02937600_06739200_13305600_07776000_03024000_07344000_13305600,
    6652800_03024000_08467200_13305600_06048000_03024000_09676800_12700800_04838400_03628800,
    10281600_12700800_04233600_03024000_27820800_03024000_27216000_03628800_27216000_03024000,
    27216000_03628800_27216000_03024000_27820800_03024000_27216000_03628800_27216000_03024000,
    27820800_03024000_27216000_03628800_27216000_03024000_27216000_03628800_27216000_03024000,
    27820800_03024000_27216000_03628800_27216000_03024000_27216000_03628800_27216000_03628800,
    27216000_03024000_27216000_03628800_27216000_03024000_27820800_03024000_27216000_03628800,
    27216000_03024000_27216000_03628800_27216000_03628800_27216000_03024000_27216000_03628800,
    27216000_03024000_27820800_03024000_27216000_03628800_27216000_03024000_27216000_03628800,
    27216000_03628800_27216000_03024000_27216000_03628800_27216000_03024000_27820800_03024000,
    27216000_03628800_27216000_03024000_27216000_03628800_27216000_03628800_27216000_03024000,
    27216000_03628800_27216000_03024000_27820800_03024000_27216000_03628800_27216000_03024000,
    27216000_03628800_27216000_03628800_27216000_03024000_27216000_03628800_27216000_03024000,
    27820800_03024000_27216000_03628800_27216000_03024000_27216000_03628800_27216000_03628800,
    27216000_03024000_27216000_03628800_27216000_03024000_27820800_03024000_27216000_03628800,
    27216000_03024000_27216000_03628800_27216000_03024000_27820800_03024000_27216000_03628800,
    27216000_03024000_27820800_03024000_27216000_03628800]
  spaced := by decide +kernel

def egyptian : Seasons where
  lengths := unpacked [
    15721200_15728400_16326000_15123600_16326000_15123600_16326000_15728400_15721200_15728400,
    15721200_15728400_15721200_15728400_16326000_15123600_16326000_15728400_15721200_15728400,
    15721200_15728400_15721200_15728400_15721200_15728400_16326000_15123600_16326000_15728400,
    15721200_15728400_15721200_15728400_15721200_15728400_16326000_15123600_16326000_15123600,
    16326000_15728400_15721200_15728400_15721200_15728400_15721200_15728400_16326000_15123600,
    16326000_15728400_15721200_15728400_15721200_15728400_15721200_15728400_16326000_15123600,
    16326000_15123600_16326000_15728400_15721200_15728400_15721200_15728400_15721200_15728400,
    16326000_15123600_16326000_15728400_15721200_15728400_15721200_15728400_15721200_15728400,
    15721200_15728400_16326000_15123600_16326000_15728400_15721200_15728400_15721200_15728400,
    15721200_15728400_16326000_15123600_16326000_15123600_16326000_15728400_15721200_15728400,
    15721200_15728400_15721200_15728400_16326000_15123600_16326000_15728400_15721200_15728400,
    15721200_15728400_15721200_15728400_16326000_15123600_16326000_15123600_16326000_15728400,
    15721200_15728400_15721200_15728400_15721200_15728400_16326000_15123600_16326000_15728400,
    15721200_15728400_15721200_15728400_15721200_15728400_15721200_15728400_16326000_15123600,
    16326000_15728400_15721200_15728400_15721200_15728400_15721200_15728400_16326000_15123600,
    16326000_15123600_16326000]
  spaced := by decide +kernel

def newZealand : Seasons where
  lengths := unpacked [
    9676800_21168000_11491200_20563200_10886400_20563200_10886400_20563200_10886400_20563200,
    10886400_20563200_10886400_20563200_11491200_20563200_10886400_20563200_10886400_20563200,
    10886400_20563200_10886400_20563200_10886400_20563200_11491200_20563200_10886400_18748800,
    13910400_17539200_13910400_17539200_13910400_17539200_14515200_16934400_14515200_16934400,
    14515200_16934400_14515200_17539200_13910400_17539200_13910400_17539200_14515200_16934400,
    14515200_16934400_14515200_17539200_13910400_17539200_13910400_17539200_14515200_16934400,
    14515200_16934400_14515200_16934400_14515200_16934400_16329600_15120000_16329600_15120000,
    16329600_15120000_16329600_15120000_16329600_15724800_16329600_15120000_16329600_15120000,
    16329600_15120000_16329600_15120000_16329600_15120000_16329600_15724800_16329600_15120000,
    16329600_15120000_16329600_15120000_16329600_15120000_16329600_15120000_16934400_15120000,
    16329600_15120000_16329600_15120000_16329600_15120000_16329600_15120000_16329600_15724800,
    16329600_15120000_16329600_15120000_16329600_15120000_16329600_15120000_16329600_15120000,
    16329600_15724800_16329600_15120000_16329600_15120000_16329600_15120000_16329600_15120000,
    16329600_15724800_16329600_15120000_16329600_15120000_16329600_15120000_16329600_15120000,
    16329600_15120000_16329600_15724800_16329600_15120000_16329600_15120000_16329600_15120000,
    16329600_15120000_16329600_15120000_16934400_15120000_16329600_15120000_16329600_15120000,
    16329600_15120000_16329600_15120000_16329600_15724800_16329600_15120000_16329600_15120000,
    16329600_15120000_16329600_15120000_16329600_15120000_16329600_15724800_16329600_15120000,
    16329600_15120000_16329600_15120000_16329600_15120000_16329600_15724800_16329600_15120000,
    16329600_15120000_16329600_15120000_16329600_15120000_16329600_15120000_16329600_15724800,
    16329600_15120000_16329600_15120000_16329600_15120000_16329600_15120000_16329600_15120000,
    16934400_15120000_16329600_15120000_16329600_15120000_16329600_15120000_16329600_15120000,
    16329600_15724800_16329600_15120000_16329600_15120000_16329600_15120000_16329600_15120000,
    16329600_15120000_16329600_15724800_16329600_15120000_16329600_15120000_16329600_15120000,
    16329600_15120000_16329600_15724800_16329600_15120000_16329600_15120000_16329600_15120000]
  spaced := by decide +kernel

def etcetera : List Row := [
  ⟨["Etc/UTC", "Etc/UCT", "Etc/Universal", "Etc/Zulu", "UCT", "UTC", "Universal", "Zulu"], [0], []⟩,
  ⟨["Etc/GMT", "Etc/GMT+0", "Etc/GMT-0", "Etc/GMT0", "Etc/Greenwich", "GMT", "GMT+0", "GMT-0",
    "GMT0", "Greenwich"], [0], []⟩,
  ⟨["Etc/GMT+1"], [-3600], []⟩,
  ⟨["Etc/GMT+10"], [-36000], []⟩,
  ⟨["Etc/GMT+11"], [-39600], []⟩,
  ⟨["Etc/GMT+12"], [-43200], []⟩,
  ⟨["Etc/GMT+2"], [-7200], []⟩,
  ⟨["Etc/GMT+3"], [-10800], []⟩,
  ⟨["Etc/GMT+4"], [-14400], []⟩,
  ⟨["Etc/GMT+5"], [-18000], []⟩,
  ⟨["Etc/GMT+6"], [-21600], []⟩,
  ⟨["Etc/GMT+7"], [-25200], []⟩,
  ⟨["Etc/GMT+8"], [-28800], []⟩,
  ⟨["Etc/GMT+9"], [-32400], []⟩,
  ⟨["Etc/GMT-1"], [3600], []⟩,
  ⟨["Etc/GMT-10"], [36000], []⟩,
  ⟨["Etc/GMT-11"], [39600], []⟩,
  ⟨["Etc/GMT-12"], [43200], []⟩,
  ⟨["Etc/GMT-13"], [46800], []⟩,
  ⟨["Etc/GMT-14"], [50400], []⟩,
  ⟨["Etc/GMT-2"], [7200], []⟩,
  ⟨["Etc/GMT-3"], [10800], []⟩,
  ⟨["Etc/GMT-4"], [14400], []⟩,
  ⟨["Etc/GMT-5"], [18000], []⟩,
  ⟨["Etc/GMT-6"], [21600], []⟩,
  ⟨["Etc/GMT-7"], [25200], []⟩,
  ⟨["Etc/GMT-8"], [28800], []⟩,
  ⟨["Etc/GMT-9"], [32400], []⟩]

def europe : List Row := [
  ⟨["Europe/Andorra"], [364, 0, 3600, 7200],
    [.singly [3187209236_1_1443571564_2_1214960400_3], .alternating 2 3 european 38 267]⟩,
  ⟨["Europe/Astrakhan"], [11532, 10800, 14400, 18000],
    [.singly [3923412468_1_0193709532_2_1602457200_3], .alternating 2 3 soviet 0 15,
    .singly [31453200_1_0015724800_2_0016329600_1_0015724800_2_0047174400_1],
    .alternating 2 1 european 53 90, .singly [113094000_1_0044758800_2]]⟩,
  ⟨["Europe/Athens", "EET"], [5692, 7200, 10800, 3600],
    [.singly [3678560768_1_0503105632_2_0004834800_1_0271299600_2_0001983600_1_0047620800_3,
    12780000_1_0016239600_3_0015814800_1_0260060400_2_0010710000_1_0708138000_2,
    19699200_1_0011844000_2_0015724800_1_0015120000_2_0015206400_1_0016243200_2,
    15123600_1_0016351200_2_0015609600_1_0015980400_2_0015548400_1_0015739200_2],
    .alternating 1 2 european 30 267]⟩,
  ⟨["Europe/Belgrade", "Europe/Ljubljana", "Europe/Podgorica", "Europe/Sarajevo", "Europe/Skopje",
    "Europe/Zagreb"], [4920, 3600, 7200],
    [.singly [2650747080_1_1808090520_2_0048567600_1_0012700800_2_0016329600_1_0015724800_2,
    15724800_1_0018835200_2_0011318400_1_1184198400_2], .alternating 1 2 european 34 267]⟩,
  ⟨["Europe/Berlin", "Arctic/Longyearbyen", "Atlantic/Jan_Mayen", "Europe/Copenhagen",
    "Europe/Oslo", "Europe/Stockholm"], [3208, 3600, 7200, 10800],
    [.singly [2942607992_1_0728348008_2_0013222800_1_0017028000_2_0013305600_1_0018144000_2,
    13305600_1_0679795200_2_0081648000_1_0012700800_2_0016329600_1_0015724800_2,
    15724800_1_0015724800_2_0004489200_3_0010627200_2_0004755600_1_0012700800_2,
    15206400_1_0015642000_2_0003020400_3_0004230000_2_0008470800_1_0016934400_2,
    14515200_1_0016329600_2_0015120000_1_0962841600_2_0015120000_1_0015724800_2],
    .alternating 1 2 european 30 267]⟩,
  ⟨["Europe/Brussels", "CET", "Europe/Amsterdam", "Europe/Luxembourg", "MET"],
    [1050, 0, 3600, 7200],
    [.singly [2913667200_1_0710640000_2_0046652400_3_0013219200_2_0017028000_3_0013305600_2,
    18144000_3_0013305600_2_0004874400_1_0009547200_2_0018748800_1_0011491200_2,
    21772800_1_0012268800_2_0019440000_1_0013046400_2_0016934400_1_0016934400_2,
    14515200_1_0015120000_2_0016329600_1_0015724800_2_0015724800_1_0016934400_2,
    14515200_1_0016329600_2_0015120000_1_0016934400_2_0015130800_1_0016934400_2,
    14515200_1_0016329600_2_0015120000_1_0016934400_2_0014515200_1_0015724800_2,
    15724800_1_0015120000_2_0016934400_1_0015724800_2_0015724800_1_0015120000_2,
    16329600_1_0016934400_2_0014515200_1_0015724800_2_0015724800_1_0015120000_2,
    16329600_1_0016934400_2_0018748800_1_0008467200_2_0007344000_3_0077410800_2,
    12700800_3_0016329600_2_0015724800_3_0014428800_2_0017020800_3_0014428800_2,
    21168000_3_0012182400_2_0962150400_3_0015120000_2_0016329600_3_0015724800_2,
    15724800_3_0015724800_2_0016329600_3_0015120000_2_0015724800_3],
    .alternating 2 3 european 30 267]⟩,
  ⟨["Europe/Bucharest"], [6264, 7200, 10800],
    [.singly [4151513736_1_0026091864_2_0011577600_1], .alternating 2 1 tasmanian 233 247,
    .singly [1251331200_2_0010882800_1_0016329600_2_0015123600_1_0015732000_2],
    .alternating 1 2 tasmanian 229 248,
    .singly [15717600_2_0015724800_1_0015724800_2_0015724800_1_0015724800_2_0015724800_1,
    15724800_2_0015721200_1_0015728400_2_0015721200_1_0016333200_2_0018140400_1, 13320000_2],
    .alternating 1 2 european 62 267]⟩,
  ⟨["Europe/Budapest"], [4580, 3600, 7200],
    [.singly [2866401820_1_0804554180_2_0013222800_1_0017028000_2_0013305600_1_0018144000_2,
    13305600_1_0018230400_2_0013219200_1_0017539200_2_0014515200_1_0648421200_2,
    49518000_1_0012700800_2_0016329600_1_0015724800_2_0015724800_1_0018306000_2,
    15814800_1_0012967200_2_0016412400_1_0015642000_2_0015724800_1_0015724800_2,
    15724800_1_0016329600_2_0015120000_1_0146354400_2_0011487600_1_0019969200_2,
    11491200_1_0021168000_2_0010281600_1_0021168000_2_0010281600_1_0710632800_2,
    15120000_1_0015724800_2_0015724800_1_0015724800_2_0015724800_1_0015724800_2,
    15724800_1_0015732000_2], .alternating 1 2 european 36 267]⟩,
  ⟨["Europe/Chisinau", "Europe/Tiraspol"], [6920, 6900, 6264, 7200, 10800, 3600, 14400],
    [.singly [2524514680_1_1203033620_2_0423965436_3_0026091864_4_0011577600_3],
    .alternating 4 3 tasmanian 233 247,
    .singly [27561600_4_0029026800_3_0040881600_5_0012700800_3_0016329600_5_0015724800_3,
    12344400_4_1155078000_6], .alternating 4 6 soviet 0 18,
    .singly [3625200_4_0012708000_3_0015724800_4_0015724800_3_0015717600_4_0015721200_3,
    15728400_4_0015721200_3_0015728400_4_0015721200_3_0015728400_4_0015721200_3,
    16333200_4_0018140400_3_0013316400_4], .alternating 3 4 european 62 267]⟩,
  ⟨["Europe/Dublin", "Eire"], [-1521, 2079, 0, 3600],
    [.singly [3672699921_1_0011491200_2_0016328079_3_0013996800_2_0016243200_3_0016416000_2,
    15638400_3_0015811200_2_0015638400_3_0018230400_2_0013824000_3_0015811200_2,
    15033600_3_0016934400_2_0016934400_3_0012700800_2_0018144000_3_0013910400_2,
    18144000_3_0014515200_2_0016934400_3_0014515200_2_0016329600_3_0015120000_2,
    17539200_3_0014515200_2_0016934400_3_0014515200_2_0016329600_3_0015120000_2,
    16934400_3_0014515200_2_0016934400_3_0014515200_2_0016329600_3_0015724800_2,
    16934400_3_0014515200_2_0016329600_3_0015120000_2_0016934400_3_0014515200_2,
    16934400_3_0014515200_2_0016329600_3_0015120000_2_0016934400_3_0018748800_2,
    8467200_3_0208656000_2_0013910400_3_0019958400_2_0014515200_3_0016934400_2,
    13305600_3_0018144000_2_0014515200_3_0016329600_2_0015120000_3_0016329600_2,
    15724800_3_0016329600_2_0015120000_3_0014515200_2_0016329600_3_0015120000_2,
    16934400_3_0014515200_2_0017539200_3_0014515200_2_0016329600_3_0015120000_2,
    16934400_3_0014515200_2_0016934400_3_0014515200_2_0016329600_3_0015120000_2,
    15120000_3_0018748800_2_0012700800_3_0018748800_2_0013305600_3_0018144000_2,
    12700800_3_0018748800_2_0012700800_3_0018748800_2_0012700800_3_0018748800_2,
    12700800_3_0019353600_2_0009676800_3_0116726400_2_0012096000_3_0019353600_2,
    12096000_3_0019353600_2_0012096000_3_0019353600_2_0012096000_3_0019353600_2,
    12700800_3_0018748800_2_0012700800_3_0018748800_2_0012700800_3_0019353600_2,
    12096000_3_0019353600_2_0012096000_3_0019353600_2_0013302000_3],
    .alternating 2 3 northAmerican 8 27, .alternating 3 2 northAmerican 15 24,
    .singly [18144000_2_0013910400_3], .alternating 2 3 european 60 267]⟩,
  ⟨["Europe/Gibraltar"], [-1284, 0, 3600, 7200],
    [.singly [2543012484_1_1129685916_2_0011491200_1_0016329600_2_0013996800_1_0016243200_2,
    16416000_1_0015638400_2_0015811200_1_0015638400_2_0018230400_1_0013824000_2,
    15811200_1_0015033600_2_0016934400_1_0016934400_2_0012700800_1_0018144000_2,
    13910400_1_0018144000_2_0014515200_1_0016934400_2_0014515200_1_0016329600_2,
    15120000_1_0017539200_2_0014515200_1_0016934400_2_0014515200_1_0016329600_2,
    15120000_1_0016934400_2_0014515200_1_0016934400_2_0014515200_1_0016329600_2,
    15724800_1_0016934400_2_0014515200_1_0016329600_2_0015120000_1_0016934400_2,
    14515200_1_0016934400_2_0014515200_1_0016329600_2_0015120000_1_0016934400_2,
    18748800_1_0008467200_2_0037494000_3_0008467200_2_0020563200_3_0010886400_2,
    20563200_3_0011491200_2_0019958400_3_0014515200_2_0017020800_3_0008985600_2,
    7261200_1_0016329600_2_0015120000_1_0013910400_2_0002415600_3_0010281600_2,
    7261200_1_0011491200_2_0019958400_1_0013305600_2_0018144000_1_0014515200_2,
    16329600_1_0015120000_2_0016329600_1_0015724800_2_0016329600_1_0015120000_2,
    14515200_1_0016329600_2_0015120000_1_0016934400_2_0014515200_1_0017539200_2,
    14515200_1_0016329600_2_0787446000_3], .alternating 2 3 european 32 267]⟩,
  ⟨["Europe/Helsinki", "Europe/Mariehamn"], [5989, 7200, 10800],
    [.singly [3828723611_1_0660267589_2_0015897600_1_1214445600_2_0015724800_1_0015724800_2,
    15724800_1_0015728400_2], .alternating 1 2 european 34 267]⟩,
  ⟨["Europe/Istanbul", "Asia/Istanbul", "Turkey"], [6952, 7016, 7200, 10800, 14400],
    [.singly [2524514648_1_0970271936_2_0176169416_3_0013215600_2_0110077200_3_0018226800_2,
    13827600_3_0015807600_2_0015037200_3_0016930800_2_0050374800_3_0012178800_2,
    18320400_3_0013215600_2_0465440400_3_0008377200_2_0004842000_3_0025398000_2,
    16592400_3_0111106800_2_0020394000_3_0010537200_2_0017370000_3_0014511600_2,
    16938000_3_0014511600_2_0016333200_3_0015116400_2_0016938000_3_0015116400_2,
    16938000_3_0014511600_2_0339901200_3_0040777200_2_0017110800_3_0012006000_2,
    273636000_3_0013305600_2_0012704400_3_0018745200_2_0012013200_3_0019436400_2,
    12099600_3_0019350000_2_0013309200_3_0016930800_2_0014518800_3_0168130800_4,
    5439600_3_0034218000_2_0014688000_3_0013910400_2_0015811200_3],
    .alternating 2 3 tasmanian 249 264, .singly [15120000_3_0016329600_2],
    .alternating 3 2 european 57 81,
    .singly [12708000_3_0018748800_2_0013305600_3_0018144000_2_0013305600_3_0018144000_2,
    13305600_3_0018748800_2_0012787200_3_0018662400_2_0012700800_3_0018748800_2,
    13305600_3_0018144000_2_0013392000_3_0018057600_2_0013305600_3_0019353600_2, 12096000_3]]⟩,
  ⟨["Europe/Kaliningrad"], [4920, 3600, 7200, 10800, 14400],
    [.singly [2942606280_1_0728349720_2_0013222800_1_0017028000_2_0013305600_1_0018144000_2,
    13305600_1_0679795200_2_0081648000_1_0012700800_2_0016329600_1_0015724800_2,
    15724800_1_0015724800_2_0002322000_3_0016066800_2_0013568400_3_1104015600_4],
    .alternating 3 4 soviet 0 15, .singly [31453200_2], .alternating 3 2 european 47 90,
    .singly [113094000_2]]⟩,
  ⟨["Europe/Kirov"], [11928, 10800, 14400, 18000],
    [.singly [3770841600_1_0346280400_2_1602457200_3], .alternating 2 3 soviet 0 15,
    .singly [31453200_1_0015724800_2_0016329600_1_0015724800_2_0047174400_1],
    .alternating 2 1 european 53 90, .singly [113094000_1]]⟩,
  ⟨["Europe/Kyiv", "Europe/Kiev", "Europe/Uzhgorod", "Europe/Zaporozhye"],
    [7324, 7200, 10800, 3600, 14400],
    [.singly [3923503076_1_0193622524_2_0355014000_1_0035265600_3_0012700800_1_0016329600_3,
    2844000_2_1180303200_4], .alternating 2 4 soviet 0 18, .singly [8463600_2_0039319200_1],
    .alternating 2 1 soviet 10 19, .singly [18147600_1], .alternating 2 1 european 61 267]⟩,
  ⟨["Europe/Lisbon", "Portugal", "WET"], [-2205, 0, 3600, 7200],
    [.singly [3534278400_1_0140828400_2_0011754000_1_0010368000_2_0019695600_1_0011840400_2,
    19695600_1_0011840400_2_0019695600_1_0011926800_2_0019695600_1_0011840400_2,
    19695600_1_0079056000_2_0014774400_1_0048384000_2_0014515200_1_0016329600_2,
    15120000_1_0016934400_2_0015120000_1_0016934400_2_0014515200_1_0048384000_2,
    14515200_1_0015724800_2_0015724800_1_0047779200_2_0015724800_1_0015120000_2,
    16329600_1_0016934400_2_0014515200_1_0015724800_2_0015724800_1_0015120000_2,
    16329600_1_0016934400_2_0018748800_1_0008467200_2_0019526400_1_0015552000_2,
    15811200_1_0013824000_2_0003625200_3_0009676800_2_0006051600_1_0012096000_2,
    3020400_3_0011491200_2_0005446800_1_0011491200_2_0003625200_3_0010886400_2,
    5446800_1_0011491200_2_0003625200_3_0010886400_2_0005446800_1_0013910400_2,
    15724800_1_0015735600_2], .alternating 1 2 tasmanian 183 221,
    .singly [330818400_1_0015724800_2_0015724800_1_0016333200_2_0015724800_1_0015724800_2,
    15724800_1_0016329600_2_0015120000_1_0015721200_2], .alternating 1 2 tasmanian 251 260,
    .singly [15728400_2], .alternating 1 2 tasmanian 249 261,
    .singly [31449600_3_0015724800_2_0015724800_3_0015724800_2_0015724800_3_0015724800_2,
    34473600_1], .alternating 2 1 european 61 267]⟩,
  ⟨["Europe/London", "Europe/Belfast", "Europe/Guernsey", "Europe/Isle_of_Man", "Europe/Jersey",
    "GB", "GB-Eire"], [-75, 0, 3600, 7200],
    [.singly [1512000075_1_2160698325_2_0011491200_1_0016329600_2_0013996800_1_0016243200_2,
    16416000_1_0015638400_2_0015811200_1_0015638400_2_0018230400_1_0013824000_2,
    15811200_1_0015033600_2_0016934400_1_0016934400_2_0012700800_1_0018144000_2,
    13910400_1_0018144000_2_0014515200_1_0016934400_2_0014515200_1_0016329600_2,
    15120000_1_0017539200_2_0014515200_1_0016934400_2_0014515200_1_0016329600_2,
    15120000_1_0016934400_2_0014515200_1_0016934400_2_0014515200_1_0016329600_2,
    15724800_1_0016934400_2_0014515200_1_0016329600_2_0015120000_1_0016934400_2,
    14515200_1_0016934400_2_0014515200_1_0016329600_2_0015120000_1_0016934400_2,
    18748800_1_0008467200_2_0037494000_3_0008467200_2_0020563200_3_0010886400_2,
    20563200_3_0011491200_2_0019958400_3_0014515200_2_0017020800_3_0008985600_2,
    7261200_1_0016329600_2_0015120000_1_0013910400_2_0002415600_3_0010281600_2,
    7261200_1_0011491200_2_0019958400_1_0013305600_2_0018144000_1_0014515200_2,
    16329600_1_0015120000_2_0016329600_1_0015724800_2_0016329600_1_0015120000_2,
    14515200_1_0016329600_2_0015120000_1_0016934400_2_0014515200_1_0017539200_2,
    14515200_1_0016329600_2_0015120000_1_0016934400_2_0014515200_1_0016934400_2,
    14515200_1_0016329600_2_0015120000_1_0015120000_2_0018748800_1_0012700800_2,
    18748800_1_0013305600_2_0018144000_1_0012700800_2_0018748800_1_0012700800_2,
    18748800_1_0012700800_2_0018748800_1_0012700800_2_0019353600_1_0009676800_2,
    116726400_1_0012096000_2_0019353600_1_0012096000_2_0019353600_1_0012096000_2,
    19353600_1_0012096000_2_0019353600_1_0012700800_2_0018748800_1_0012700800_2,
    18748800_1_0012700800_2_0019353600_1_0012096000_2_0019353600_1_0012096000_2,
    19353600_1_0013302000_2], .alternating 1 2 northAmerican 8 27,
    .alternating 2 1 northAmerican 15 24, .singly [18144000_1_0013910400_2],
    .alternating 1 2 european 60 267]⟩,
  ⟨["Europe/Madrid"], [-884, 0, 3600, 7200],
    [.singly [3187209600_1_0545526000_2_0015037200_1_0015721200_2_0015814800_1_0142902000_2,
    14778000_1_0048380400_2_0014518800_1_0016326000_2_0015123600_1_0016934400_2,
    15120000_1_0016930800_2_0014518800_1_0242866800_2_0009334800_1_0015721200_2,
    2415600_3_0013392000_2_0031975200_1_0013906800_2_0067129200_3_0010458000_2,
    19782000_3_0014518800_2_0016930800_3_0014518800_2_0016930800_3_0014518800_2,
    16930800_3_0014518800_2_0081644400_3_0013309200_2_0774140400_3_0015123600_2,
    16326000_3_0015123600_2_0015116400_3_0015728400_2_0016326000_3_0015123600_2,
    16336800_3_0015724800_2_0015724800_3_0015724800_2_0016329600_3_0015120000_2, 15724800_3],
    .alternating 2 3 european 30 267]⟩,
  ⟨["Europe/Malta"], [3484, 3600, 7200],
    [.singly [2961183716_1_0712713484_2_0010278000_1_0015728400_2_0015807600_1_0013827600_2,
    18226800_1_0012618000_2_0018745200_1_0014518800_2_0015721200_1_0622861200_2,
    75175200_1_0012700800_2_0016329600_1_0015638400_2_0014515200_1_0017020800_2,
    14335200_1_0015818400_2_0017539200_1_0013903200_2_0017539200_1_0012708000_2,
    18748800_1_0556408800_2], .alternating 1 2 european 0 267]⟩,
  ⟨["Europe/Minsk"], [6616, 6600, 7200, 10800, 3600, 14400],
    [.singly [2524514984_1_1398988816_2_0193621800_3_0347756400_2_0042523200_4_0012700800_2,
    16329600_4_0015724800_2_0007851600_3_1159570800_5], .alternating 3 5 soviet 0 17,
    .singly [63507600_2], .alternating 3 2 european 51 90]⟩,
  ⟨["Europe/Moscow", "W-SU"], [9017, 9079, 12679, 16279, 14400, 10800, 18000, 7200],
    [.singly [3676397383_1_0031445938_2_0015465600_1_0013388400_3_0009248400_2_0022287600_3,
    2608279_4_0003960000_5_0047433600_4_0002934000_6_0014169600_4_0002595600_5,
    31539600_7_0243651600_5_1602457200_4], .alternating 5 4 soviet 0 19,
    .singly [31453200_7_0009676800_5_0006044400_4], .alternating 5 4 european 52 90,
    .singly [113094000_5]]⟩,
  ⟨["Europe/Paris", "Europe/Monaco"], [561, 0, 3600, 7200],
    [.singly [3508703439_1_0166144161_2_0009417600_1_0015033600_2_0017020800_1_0013219200_2,
    18230400_1_0012614400_2_0018835200_1_0011404800_2_0021772800_1_0012268800_2,
    19440000_1_0013046400_2_0016934400_1_0019958400_2_0011491200_1_0015120000_2,
    16329600_1_0015724800_2_0015724800_1_0016934400_2_0014515200_1_0016329600_2,
    15120000_1_0016934400_2_0015120000_1_0016934400_2_0014515200_1_0016329600_2,
    15120000_1_0016934400_2_0014515200_1_0015724800_2_0015724800_1_0015120000_2,
    16934400_1_0015724800_2_0015724800_1_0015120000_2_0016329600_1_0016934400_2,
    14515200_1_0015724800_2_0015724800_1_0015120000_2_0016329600_1_0016934400_2,
    18748800_1_0008478000_2_0009576000_3_0075178800_2_0012700800_3_0016329600_2,
    15724800_3_0016236000_2_0015213600_3_0014428800_2_0963442800_3_0015721200_2,
    16336800_3_0015120000_2_0016329600_3_0015724800_2_0015724800_3_0015724800_2,
    16329600_3_0015120000_2_0015724800_3], .alternating 2 3 european 30 267]⟩,
  ⟨["Europe/Prague", "Europe/Bratislava"], [3464, 3600, 7200, 0],
    [.singly [2895260536_1_0775695464_2_0013222800_1_0017028000_2_0013305600_1_0018144000_2,
    13305600_1_0679795200_2_0081648000_1_0012700800_2_0016329600_1_0015724800_2,
    15724800_1_0015724800_2_0015724800_1_0018748800_2_0013219200_1_0004842000_3,
    7257600_1_0004834800_2_0014515200_1_0016934400_2_0014515200_1_0016243200_2,
    15206400_1_0930787200_2_0015724800_1_0016329600_2_0015120000_1_0015724800_2],
    .alternating 1 2 european 30 267]⟩,
  ⟨["Europe/Riga"], [5794, 9394, 7200, 10800, 3600, 14400],
    [.singly [3732654206_1_0013305600_0_0017020800_1_0004406400_0_0219967200_2_0449278594_3,
    28508400_2_0042264000_4_0012700800_2_0016329600_4_0015724800_2_0015724800_4,
    943200_3_1150754400_5], .alternating 3 5 soviet 0 15, .singly [31453200_2],
    .alternating 3 2 tasmanian 223 237,
    .singly [15728400_3_0018144000_2_0013305600_3_0018144000_2_0013305600_3_0018748800_2,
    44150400_3], .alternating 2 3 european 70 267]⟩,
  ⟨["Europe/Rome", "Europe/San_Marino", "Europe/Vatican"], [2996, 3600, 7200],
    [.singly [2961097200_1_0712800000_2_0010278000_1_0015728400_2_0015807600_1_0013827600_2,
    18226800_1_0012618000_2_0018745200_1_0014518800_2_0015721200_1_0622861200_2,
    75175200_1_0012700800_2_0016329600_1_0015724800_2_0014428800_1_0017020800_2,
    14335200_1_0015818400_2_0017539200_1_0013903200_2_0017539200_1_0012708000_2,
    18748800_1_0556408800_2], .alternating 1 2 european 0 13,
    .singly [21168000_2_0010281600_1_0020563200_2_0010886400_1_0021168000_2_0010281600_1,
    21168000_2_0010281600_1_0020563200_2_0010886400_1_0021168000_2_0010886400_1,
    20563200_2_0010886400_1_0016336800_2_0015120000_1_0015724800_2],
    .alternating 1 2 european 30 267]⟩,
  ⟨["Europe/Samara"], [12020, 10800, 14400, 18000],
    [.singly [3770841600_1_0346280400_2_1602457200_3], .alternating 2 3 soviet 0 15,
    .singly [31453200_1_0015724800_2_0016329600_1_0033267600_2_0013903200_3],
    .alternating 2 3 european 52 87, .singly [32058000_1_0012700800_2]]⟩,
  ⟨["Europe/Saratov"], [11058, 10800, 14400, 18000],
    [.singly [3770841600_1_0346280400_2_1602457200_3], .alternating 2 3 soviet 0 13,
    .singly [31453200_1_0015724800_2_0015724800_1_0015724800_2_0016329600_1_0015724800_2,
    47174400_1], .alternating 2 1 european 53 90, .singly [113094000_1_0066531600_2]]⟩,
  ⟨["Europe/Simferopol"], [8184, 8160, 7200, 10800, 3600, 14400],
    [.singly [2524513416_1_1398988824_2_0193623360_3_0358642800_2_0031636800_4_0012700800_2,
    16329600_4_0015724800_2_0000853200_3_1166569200_5], .alternating 3 5 soviet 0 17,
    .singly [24192000_2_0055040400_3_0015724800_2_0015724800_3_0015724800_2_0015724800_3,
    3013200_5_0012708000_3_0015724800_5_0015724800_3_0016322400_5_0018154800_3, 31453200_2],
    .alternating 3 2 european 231 263, .singly [13302000_5_0018136800_3]]⟩,
  ⟨["Europe/Sofia"], [5596, 7016, 7200, 3600, 10800],
    [.singly [2524516004_1_0470619380_2_1512269816_3_0012700800_2_0016329600_3_0015724800_2,
    15724800_3_0015728400_2_1072810800_4_0015814800_2_0016239600_4_0015210000_2,
    16239600_4_0015127200_2_0016322400_4_0015130800_2], .alternating 4 2 tasmanian 232 248,
    .singly [15717600_4], .alternating 2 4 egyptian 130 138,
    .singly [15721200_2_0016333200_4_0018140400_2_0013320000_4], .alternating 2 4 european 62 267]⟩,
  ⟨["Europe/Tallinn"], [5940, 3600, 7200, 10800, 14400],
    [.singly [3726339660_1_0006316740_2_0013305600_1_0024876000_0_0057885660_2_0607995540_3,
    34988400_2_0035697600_1_0012700800_2_0016329600_1_0015724800_2_0014850000_3, 1152572400_4],
    .alternating 3 4 soviet 0 15, .singly [31453200_2], .alternating 3 2 european 47 64,
    .singly [18147600_2_0013305600_3_0018748800_2_0076204800_3], .alternating 2 3 european 72 267]⟩,
  ⟨["Europe/Tirane"], [4760, 3600, 7200],
    [.singly [3597432040_1_0834884360_2_0075088800_1_0012700800_2_0001036800_1_0980373600_2,
    13042800_1_0018234000_2_0013302000_1_0018406800_2_0013302000_1_0018752400_2,
    12697200_1_0018666000_2_0012783600_1_0018666000_2_0012783600_1_0018666000_2,
    13302000_1_0017629200_2_0013302000_1_0018752400_2_0013302000_1_0017024400_2,
    14338800_1_0015814800_2_0015732000_1], .alternating 2 1 european 37 267]⟩,
  ⟨["Europe/Ulyanovsk"], [11616, 10800, 14400, 18000, 7200],
    [.singly [3770841600_1_0346280400_2_1602457200_3], .alternating 2 3 soviet 0 15,
    .singly [31453200_1_0015724800_2_0016329600_1_0031453200_4_0009676800_1_0006044400_2],
    .alternating 1 2 european 52 90, .singly [113094000_1_0044758800_2]]⟩,
  ⟨["Europe/Vienna"], [3921, 3600, 7200],
    [.singly [2942607279_1_0728348721_2_0013222800_1_0017028000_2_0013305600_1_0018144000_2,
    13305600_1_0048988800_2_0013910400_1_0616896000_2_0081648000_1_0012700800_2,
    16329600_1_0015724800_2_0015724800_1_0015724800_2_0000864000_1_0031708800_2,
    15206400_1_0015638400_2_0015724800_1_0016934400_2_0014515200_1_0994284000_2,
    15116400_1_0015735600_2], .alternating 1 2 european 30 267]⟩,
  ⟨["Europe/Vilnius"], [6076, 5040, 5736, 3600, 7200, 10800, 14400],
    [.singly [2524515524_1_1167610636_2_0087436104_3_0023848536_4_0007686000_3_0625366800_5,
    28072800_4_0042868800_3_0012700800_4_0016329600_3_0015724800_4_0010357200_5, 1157065200_6],
    .alternating 5 6 soviet 0 15, .singly [31453200_4], .alternating 5 4 european 47 63,
    .singly [31453200_3_0013305600_4_0126403200_5], .alternating 4 5 european 74 267]⟩,
  ⟨["Europe/Volgograd"], [10660, 10800, 14400, 18000],
    [.singly [3786901340_1_0330220660_2_1602457200_3], .alternating 2 3 soviet 0 13,
    .singly [31453200_1_0015724800_2_0015724800_1_0015724800_2_0016329600_1_0015724800_2,
    47174400_1], .alternating 2 1 european 53 90, .singly [113094000_1_0126406800_2_0068338800_1]]⟩,
  ⟨["Europe/Warsaw", "Poland"], [5040, 3600, 7200, 10800],
    [.singly [3647630160_1_0023325840_2_0013222800_1_0017028000_2_0013305600_1_0018144000_2,
    31532400_3_0013305600_2_0085442400_1_0569991600_2_0074476800_1_0012700800_2,
    16329600_1_0015724800_2_0015894000_1_0017881200_2_0016066800_1_0014173200_2,
    15213600_1_0018057600_2_0013305600_1_0016934400_2_0014515200_1_0016329600_2,
    15120000_1_0241916400_2_0010281600_1_0015724800_2_0015724800_1_0021168000_2,
    10886400_1_0015724800_2_0015724800_1_0020563200_2_0010886400_1_0020563200_2,
    10886400_1_0020563200_2_0010886400_1_0021168000_2_0010281600_1_0394934400_2,
    15120000_1_0016329600_2_0015724800_1_0015724800_2_0015724800_1_0016329600_2, 15120000_1],
    .alternating 2 1 tasmanian 250 264, .singly [15728400_2], .alternating 1 2 european 44 267]⟩,
  ⟨["Europe/Zurich", "Europe/Busingen", "Europe/Vaduz"], [2048, 1786, 3600, 7200],
    [.singly [1689463552_1_1289952262_2_1480811386_3_0013305600_2_0018144000_3_0013305600_2,
    1214355600_3], .alternating 2 3 european 30 267]⟩]

def africa : List Row := [
  ⟨["Africa/Abidjan", "Africa/Accra", "Africa/Bamako", "Africa/Banjul", "Africa/Conakry",
    "Africa/Dakar", "Africa/Freetown", "Africa/Lome", "Africa/Nouakchott", "Africa/Ouagadougou",
    "Africa/Timbuktu", "Atlantic/Reykjavik", "Atlantic/St_Helena", "Iceland"], [-968, 0],
    [.singly [3534279368_1]]⟩,
  ⟨["Africa/Algiers"], [732, 561, 0, 3600, 7200],
    [.singly [2878069668_1_0630633771_2_0166144161_3_0009417600_2_0015033600_3_0017020800_2,
    13219200_3_0018230400_2_0012614400_3_0018835200_2_0011404800_3_0021772800_2,
    12268800_3_0008553600_2_0575078400_3_0005878800_2_0008474400_3_0129510000_4,
    16239600_3_0015210000_4_0014421600_3_0033350400_2_0293850000_3_0227401200_2,
    253497600_3_0013305600_2_0176950800_3_0027820800_4_0015728400_3_0034466400_2,
    15728400_3_0016333200_2_0015721200_3]]⟩,
  ⟨["Africa/Bissau"], [-3740, -3600, 0], [.singly [3534282000_1_1988150400_2]]⟩,
  ⟨["Africa/Cairo", "Egypt"], [7509, 7200, 10800],
    [.singly [3179253291_1_1255565109_2_0006735600_1_0016938000_2_0013302000_1_0017024400_2,
    18054000_1_0013482000_2_0018486000_1_0013136400_2_0018486000_1_0014346000_2,
    17190000_1_0363574800_2_0012438000_1_0018320400_2_0013215600_1_0018324000_2,
    13136400_1_0018486000_2_0013136400_1_0018399600_2_0013136400_1_0018399600_2,
    13136400_1_0018399600_2_0013136400_1_0018486000_2_0013136400_1_0018399600_2,
    13136400_1_0018399600_2_0013222800_1_0018313200_2_0013222800_1_0018399600_2,
    13222800_1_0018313200_2_0013222800_1_0018313200_2_0013222800_1_0018313200_2,
    13222800_1_0018399600_2_0013222800_1_0018313200_2_0013222800_1_0018313200_2,
    13222800_1_0018313200_2_0013222800_1_0018399600_2_0013222800_1_0018313200_2,
    13222800_1_0018313200_2_0013222800_1_0018313200_2_0013222800_1_0018399600_2,
    13222800_1_0018313200_2_0013222800_1_0025657200_2_0005878800_1_0024534000_2,
    7002000_1_0018399600_2_0013222800_1_0018313200_2_0013222800_1_0018313200_2,
    13222800_1_0018313200_2_0013222800_1_0018399600_2_0013222800_1_0018745200_2,
    12790800_1_0018313200_2_0013222800_1_0018313200_2_0013222800_1_0018399600_2,
    13222800_1_0018313200_2_0013222800_1_0018313200_2_0013222800_1_0018050400_2],
    .alternating 1 2 chilean 46 54, .alternating 1 2 european 18 27,
    .singly [18752400_2_0013302000_1_0018147600_2_0013302000_1_0018147600_2_0012697200_1,
    18752400_2_0011487600_1_0019962000_2_0010882800_1_0020566800_2_0010278000_1,
    21776400_2_0008895600_1_0002595600_2_0001810800_1_0114310800_2_0003625200_1,
    3027600_2_0004834800_1_0270954000_2], .alternating 1 2 egyptian 0 153]⟩,
  ⟨["Africa/Casablanca"], [-1820, 0, 3600],
    [.singly [3591649820_1_0816650980_2_0005871600_1_0008470800_2_0180831600_1_0143946000_2,
    12092400_1_0523717200_2_0010321200_1_0212374800_2_0005958000_1_0052534800_2,
    7945200_1_0023590800_2_0012956400_1_0021258000_2_0005526000_1_0177210000_2,
    56674800_1_0707360400_2], .alternating 1 2 moroccan 0 176]⟩,
  ⟨["Africa/Ceuta"], [-1276, 0, 3600, 7200],
    [.singly [3187209600_1_0547340400_2_0013302000_1_0174358800_2_0014778000_1_0048380400_2,
    14518800_1_0016326000_2_0015123600_1_0016934400_2_0015120000_1_1219838400_2,
    10321200_1_0212374800_2_0005958000_1_0052534800_2_0007945200_1_0023590800_2,
    12956400_1_0021258000_2_0005526000_1_0177210000_2_0064285200_3],
    .alternating 2 3 european 40 267]⟩,
  ⟨["Africa/El_Aaiun"], [-3168, -3600, 0, 3600],
    [.singly [4228591968_1_1334362032_2_0001465200_3_0007945200_2_0023590800_3_0012956400_2,
    21258000_3_0005526000_2_0941245200_3], .alternating 2 3 moroccan 0 176]⟩,
  ⟨["Africa/Johannesburg", "Africa/Maseru", "Africa/Mbabane"], [6720, 5400, 7200, 10800],
    [.singly [2906489280_1_0348884520_2_1248312600_3_0015721200_2_0015728400_3_0015721200_2]]⟩,
  ⟨["Africa/Juba"], [7588, 7200, 10800],
    [.singly [4133886812_1_1241136388_2_0014425200_1_0017024400_2_0014511600_1_0017110800_2,
    14511600_1_0016938000_2_0014598000_1_0016851600_2_0014684400_1_0016765200_2,
    14770800_1_0016678800_2_0014943600_1_0016506000_2_0015030000_1_0017024400_2,
    14511600_1_0016938000_2_0014598000_1_0016851600_2_0014770800_1_0016678800_2,
    14857200_1_0016592400_2_0014943600_1_0016506000_2_0015030000_1_0017024400_2,
    14598000_1_0016851600_2_0014684400_1_0449758800_2_0664196400_1]]⟩,
  ⟨["Africa/Khartoum"], [7808, 7200, 10800],
    [.singly [4133886592_1_1241136608_2_0014425200_1_0017024400_2_0014511600_1_0017110800_2,
    14511600_1_0016938000_2_0014598000_1_0016851600_2_0014684400_1_0016765200_2,
    14770800_1_0016678800_2_0014943600_1_0016506000_2_0015030000_1_0017024400_2,
    14511600_1_0016938000_2_0014598000_1_0016851600_2_0014770800_1_0016678800_2,
    14857200_1_0016592400_2_0014943600_1_0016506000_2_0015030000_1_0017024400_2,
    14598000_1_0016851600_2_0014684400_1_0449758800_2_0561553200_1]]⟩,
  ⟨["Africa/Lagos", "Africa/Bangui", "Africa/Brazzaville", "Africa/Douala", "Africa/Kinshasa",
    "Africa/Libreville", "Africa/Luanda", "Africa/Malabo", "Africa/Niamey", "Africa/Porto-Novo"],
    [815, 0, 1800, 3600], [.singly [3329077585_1_0094695215_0_0173663185_2_0178760615_3]]⟩,
  ⟨["Africa/Maputo", "Africa/Blantyre", "Africa/Bujumbura", "Africa/Gaborone", "Africa/Harare",
    "Africa/Kigali", "Africa/Lubumbashi", "Africa/Lusaka"], [7818, 7200], [.singly [3439662582_1]]⟩,
  ⟨["Africa/Monrovia"], [-2588, -2670, 0], [.singly [3760303388_1_1667952082_2]]⟩,
  ⟨["Africa/Nairobi", "Africa/Addis_Ababa", "Africa/Asmara", "Africa/Asmera",
    "Africa/Dar_es_Salaam", "Africa/Djibouti", "Africa/Kampala", "Africa/Mogadishu",
    "Indian/Antananarivo", "Indian/Comoro", "Indian/Mayotte"], [8836, 9000, 10800, 9900],
    [.singly [3418493564_1_0636422236_2_0047777400_1_0220581000_3_0176082300_2]]⟩,
  ⟨["Africa/Ndjamena"], [3612, 3600, 7200], [.singly [3534274788_1_2139091212_2_0012610800_1]]⟩,
  ⟨["Africa/Sao_Tome"], [1616, -2205, 0, 3600],
    [.singly [2650750384_1_0883528016_2_3345152400_3_0031536000_2]]⟩,
  ⟨["Africa/Tripoli", "Libya"], [3164, 3600, 7200],
    [.singly [3786736036_1_1003024364_2_0006814800_1_0055911600_2_0007246800_1_0055040400_2,
    8031600_1_0094698000_2_0725842800_1_0007779600_2_0015807600_1_0015728400_2,
    15807600_1_0015814800_2_0015807600_1_0016160400_2_0015375600_1_0015987600_2,
    15721200_1_0015555600_2_0015807600_1_0015814800_2_0015807600_1_0015728400_2,
    15807600_1_0018579600_2_0202258800_1_0016074000_2_0492397200_1_0012009600_2]]⟩,
  ⟨["Africa/Tunis"], [2444, 561, 3600, 7200],
    [.singly [2567459956_1_0941243483_2_0886716561_3_0018748800_2_0008553600_3_0050803200_2,
    13309200_3_0020570400_2_0012700800_3_0001638000_2_0000694800_3_0013993200_2,
    15728400_3_0016232400_2_0015217200_3_0014418000_2_0997837200_3_0012700800_2,
    18921600_3_0013219200_2_0305078400_3_0010022400_2_0015724800_3_0015724800_2,
    18921600_3_0013132800_2_0460252800_3_0013136400_2_0015296400_3_0018748800_2,
    12700800_3_0018748800_2_0013305600_3_0018144000_2]]⟩,
  ⟨["Africa/Windhoek"], [4104, 5400, 7200, 10800, 3600],
    [.singly [2906491896_1_0348881904_2_1248312600_3_0015721200_2_1609455600_4_0014439600_2],
    .alternating 4 2 chilean 194 240]⟩]

def americaNorth : List Row := [
  ⟨["America/Adak", "America/Atka", "US/Aleutian"], [44002, -42398, -39600, -36000, -32400],
    [.singly [2139438673_1_1036278925_2_1308748402_3_0114822000_2_0743907600_3],
    .alternating 2 3 northAmerican 41 69, .singly [32050800_4],
    .alternating 3 4 northAmerican 71 302]⟩,
  ⟨["America/Anchorage", "US/Alaska"], [50424, -35976, -36000, -32400, -28800],
    [.singly [2139438673_1_1036272503_2_1308751224_3_0114822000_2_0743907600_3],
    .alternating 2 3 northAmerican 41 69, .singly [32050800_4],
    .alternating 3 4 northAmerican 71 302]⟩,
  ⟨["America/Araguaina"], [-11568, -10800, -7200],
    [.singly [3597448368_1_0560256432_2_0015595200_1_0015987600_2_0015548400_1_0526006800_2,
    11750400_1_0019785600_2_0010450800_1_0021085200_2_0010537200_1_0021085200_2,
    7772400_1_0339987600_2_0007167600_1_0029034000_2_0005094000_1_0021171600_2,
    7772400_1_0021171600_2_0010364400_1_0021171600_2_0010450800_1_0557715600_2],
    .alternating 1 2 brazilian 0 9, .singly [179024400_2], .alternating 1 2 brazilian 20 35,
    .singly [305427600_2_0010278000_1]]⟩,
  ⟨["America/Argentina/Buenos_Aires", "America/Buenos_Aires"],
    [-14028, -15408, -14400, -10800, -7200],
    [.singly [2992564428_1_0804644580_2_0334021392_3], .alternating 2 3 argentine 0 26,
    .singly [536454000_2_0006483600_3_0006649200_2_0019702800_3_0011833200_2_0019702800_3,
    11833200_2_0019702800_3_0014598000_2_0015728400_3_0016326000_2_0015728400_3,
    15721200_2_0015728400_3_0135730800_4_0008463600_3_0460342800_4_0008118000_3,
    19357200_4_0012092400_3_0019962000_4_0011487600_3_0019962000_4_0011487600_3,
    19962000_4_0012092400_3_0467514000_4_0006649200_3_0018752400_4_0012697200_3]]⟩,
  ⟨["America/Argentina/Catamarca", "America/Argentina/ComodRivadavia", "America/Catamarca"],
    [-15788, -15408, -14400, -10800, -7200],
    [.singly [2992566188_1_0804642820_2_0334021392_3], .alternating 2 3 argentine 0 26,
    .singly [536454000_2_0006483600_3_0006649200_2_0019702800_3_0011833200_2_0019702800_3,
    11833200_2_0019702800_3_0014598000_2_0015728400_3_0016326000_2_0015728400_3,
    15721200_2_0015728400_3_0135730800_4_0008463600_3_0460342800_4_0008118000_3,
    19357200_4_0012092400_3_0019962000_4_0011487600_2_0019965600_4_0011484000_3,
    19962000_4_0012092400_3_0354589200_2_0001645200_3_0111279600_4_0006649200_3]]⟩,
  ⟨["America/Argentina/Cordoba", "America/Cordoba", "America/Rosario"],
    [-15408, -14400, -10800, -7200],
    [.singly [3797209008_1_0334021392_2], .alternating 1 2 argentine 0 26,
    .singly [536454000_1_0006483600_2_0006649200_1_0019702800_2_0011833200_1_0019702800_2,
    11833200_1_0019702800_2_0014598000_1_0015728400_2_0016326000_1_0015728400_2,
    15721200_1_0015728400_2_0135730800_3_0008463600_2_0460342800_3_0008118000_2,
    19357200_3_0012092400_2_0019962000_3_0011487600_1_0019965600_3_0011484000_2,
    19962000_3_0012092400_2_0467514000_3_0006649200_2_0018752400_3_0012697200_2]]⟩,
  ⟨["America/Argentina/Jujuy", "America/Jujuy"], [-15672, -15408, -14400, -10800, -7200],
    [.singly [2992566072_1_0804642936_2_0334021392_3], .alternating 2 3 argentine 0 26,
    .singly [536454000_2_0006483600_3_0006649200_2_0019702800_3_0011833200_2_0019702800_3,
    11833200_2_0019702800_3_0014598000_2_0015728400_3_0016326000_2_0015728400_3,
    15721200_2_0015728400_3_0135730800_4_0008463600_3_0460342800_4_0008118000_3,
    19357200_4_0012092400_2_0020570400_3_0012092400_2_0017542800_4_0012693600_3,
    19962000_4_0012092400_3_0467514000_4_0006649200_3]]⟩,
  ⟨["America/Argentina/La_Rioja"], [-16044, -15408, -14400, -10800, -7200],
    [.singly [2992566444_1_0804642564_2_0334021392_3], .alternating 2 3 argentine 0 26,
    .singly [536454000_2_0006483600_3_0006649200_2_0019702800_3_0011833200_2_0019702800_3,
    11833200_2_0019702800_3_0014598000_2_0015728400_3_0016326000_2_0015728400_3,
    15721200_2_0015728400_3_0135730800_4_0008463600_3_0460342800_4_0008118000_3,
    19357200_4_0012092400_3_0019962000_4_0011314800_2_0005796000_3_0014338800_4,
    11487600_3_0019962000_4_0012092400_3_0354589200_2_0001645200_3_0111279600_4, 6649200_3]]⟩,
  ⟨["America/Argentina/Mendoza", "America/Mendoza"], [-16516, -15408, -14400, -10800, -7200],
    [.singly [2992566916_1_0804642092_2_0334021392_3], .alternating 2 3 argentine 0 26,
    .singly [536454000_2_0006483600_3_0006649200_2_0019702800_3_0011833200_2_0019702800_3,
    11833200_2_0019702800_3_0014598000_2_0015728400_3_0016326000_2_0015728400_3,
    15721200_2_0015728400_3_0135730800_4_0008463600_3_0460342800_4_0008118000_3,
    19357200_4_0012092400_2_0019447200_3_0011833200_2_0019702800_3_0011919600_2,
    19962000_4_0012088800_3_0353811600_2_0010890000_3_0102812400_4_0006649200_3]]⟩,
  ⟨["America/Argentina/Rio_Gallegos"], [-16612, -15408, -14400, -10800, -7200],
    [.singly [2992567012_1_0804641996_2_0334021392_3], .alternating 2 3 argentine 0 26,
    .singly [536454000_2_0006483600_3_0006649200_2_0019702800_3_0011833200_2_0019702800_3,
    11833200_2_0019702800_3_0014598000_2_0015728400_3_0016326000_2_0015728400_3,
    15721200_2_0015728400_3_0135730800_4_0008463600_3_0460342800_4_0008118000_3,
    19357200_4_0012092400_3_0019962000_4_0011487600_3_0019962000_4_0011487600_3,
    19962000_4_0012092400_3_0354589200_2_0001645200_3_0111279600_4_0006649200_3]]⟩,
  ⟨["America/Argentina/Salta"], [-15700, -15408, -14400, -10800, -7200],
    [.singly [2992566100_1_0804642908_2_0334021392_3], .alternating 2 3 argentine 0 26,
    .singly [536454000_2_0006483600_3_0006649200_2_0019702800_3_0011833200_2_0019702800_3,
    11833200_2_0019702800_3_0014598000_2_0015728400_3_0016326000_2_0015728400_3,
    15721200_2_0015728400_3_0135730800_4_0008463600_3_0460342800_4_0008118000_3,
    19357200_4_0012092400_3_0019962000_4_0011487600_2_0019965600_4_0011484000_3,
    19962000_4_0012092400_3_0467514000_4_0006649200_3]]⟩,
  ⟨["America/Argentina/San_Juan"], [-16444, -15408, -14400, -10800, -7200],
    [.singly [2992566844_1_0804642164_2_0334021392_3], .alternating 2 3 argentine 0 26,
    .singly [536454000_2_0006483600_3_0006649200_2_0019702800_3_0011833200_2_0019702800_3,
    11833200_2_0019702800_3_0014598000_2_0015728400_3_0016326000_2_0015728400_3,
    15721200_2_0015728400_3_0135730800_4_0008463600_3_0460342800_4_0008118000_3,
    19357200_4_0012092400_3_0019962000_4_0011314800_2_0005796000_3_0014338800_4,
    11487600_3_0019962000_4_0012092400_3_0354502800_2_0004755600_3_0108255600_4, 6649200_3]]⟩,
  ⟨["America/Argentina/San_Luis"], [-15924, -15408, -14400, -10800, -7200],
    [.singly [2992566324_1_0804642684_2_0334021392_3], .alternating 2 3 argentine 0 26,
    .singly [536454000_2_0006483600_3_0006649200_2_0019702800_3_0011833200_2_0019702800_3,
    11833200_2_0019702800_3_0014598000_2_0015728400_3_0016326000_2_0015728400_3,
    15721200_2_0015728400_3_0135730800_4_0008463600_3_0460342800_4_0008118000_3,
    19357200_4_0012956400_2_0018583200_3_0011833200_2_0007952400_3_0410223600_2,
    4755600_3_0108255600_4_0001897200_3_0004150800_2_0018752400_3_0012697200_2, 18752400_3]]⟩,
  ⟨["America/Argentina/Tucuman"], [-15652, -15408, -14400, -10800, -7200],
    [.singly [2992566052_1_0804642956_2_0334021392_3], .alternating 2 3 argentine 0 26,
    .singly [536454000_2_0006483600_3_0006649200_2_0019702800_3_0011833200_2_0019702800_3,
    11833200_2_0019702800_3_0014598000_2_0015728400_3_0016326000_2_0015728400_3,
    15721200_2_0015728400_3_0135730800_4_0008463600_3_0460342800_4_0008118000_3,
    19357200_4_0012092400_3_0019962000_4_0011487600_2_0019965600_4_0011484000_3,
    19962000_4_0012092400_3_0354589200_2_0001040400_3_0111884400_4_0006649200_3,
    18752400_4_0012697200_3]]⟩,
  ⟨["America/Argentina/Ushuaia"], [-16392, -15408, -14400, -10800, -7200],
    [.singly [2992566792_1_0804642216_2_0334021392_3], .alternating 2 3 argentine 0 26,
    .singly [536454000_2_0006483600_3_0006649200_2_0019702800_3_0011833200_2_0019702800_3,
    11833200_2_0019702800_3_0014598000_2_0015728400_3_0016326000_2_0015728400_3,
    15721200_2_0015728400_3_0135730800_4_0008463600_3_0460342800_4_0008118000_3,
    19357200_4_0012092400_3_0019962000_4_0011487600_3_0019962000_4_0011487600_3,
    19962000_4_0012092400_3_0354416400_2_0001818000_3_0111279600_4_0006649200_3]]⟩,
  ⟨["America/Asuncion"], [-13840, -14400, -10800],
    [.singly [4158273040_1_1293149360_2_0047257200_1_0047350800_2_0013129200_1_0018493200_2,
    13042800_1_0018493200_2_0013042800_1_0018493200_2_0015721200_1_0015814800_2,
    15807600_1_0015814800_2_0015721200_1_0015814800_2_0015721200_1_0015814800_2,
    15721200_1_0015814800_2_0015807600_1_0015814800_2_0015721200_1_0015814800_2,
    15721200_1_0015814800_2_0015721200_1_0015814800_2_0015807600_1_0015814800_2,
    15721200_1_0017629200_2_0013906800_1_0015814800_2_0015721200_1_0016246800_2,
    12697200_1_0018838800_2_0015289200_1_0015901200_2_0012870000_1_0018666000_2,
    12783600_1_0018752400_2_0013129200_1_0018925200_2_0012092400_1_0019357200_2],
    .alternating 1 2 chilean 68 76,
    .singly [15721200_1_0012704400_2_0018745200_1_0013309200_2_0018140400_1_0016938000_2,
    12697200_1_0018752400_2_0012697200_1_0018752400_2_0012697200_1_0019357200_2,
    12092400_1_0019357200_2_0012092400_1_0019357200_2_0015116400_1_0015123600_2,
    16326000_1_0015123600_2_0016326000_1_0015728400_2_0014511600_1_0016938000_2,
    14511600_1_0016938000_2_0014511600_1_0016938000_2_0015116400_1_0016333200_2,
    15116400_1_0016333200_2_0015116400_1_0016938000_2_0014511600_1_0016938000_2,
    14511600_1_0016938000_2_0015116400_1_0016333200_2_0015116400_1_0016333200_2,
    15116400_1_0016333200_2_0015116400_1_0016938000_2]]⟩,
  ⟨["America/Bahia"], [-9244, -10800, -7200],
    [.singly [3597446044_1_0560258756_2_0015595200_1_0015987600_2_0015548400_1_0526006800_2,
    11750400_1_0019785600_2_0010450800_1_0021085200_2_0010537200_1_0021085200_2,
    7772400_1_0339987600_2_0007167600_1_0029034000_2_0005094000_1_0021171600_2,
    7772400_1_0021171600_2_0010364400_1_0021171600_2_0010450800_1_0557715600_2],
    .alternating 1 2 brazilian 0 35, .singly [273373200_2_0011487600_1]]⟩,
  ⟨["America/Bahia_Banderas"], [-25260, -25200, -21600, -18000],
    [.singly [3849922800_1_0171590400_2_0108342000_1_0014346000_2_0013302000_1_0015814800_2,
    317516400_1_1702695600_2], .alternating 1 2 northAmerican 95 104,
    .singly [16333200_2_0012697200_1_0016333200_2], .alternating 1 2 northAmerican 107 116,
    .singly [13309200_2_0018140400_1_0013914000_2_0017535600_1_0013914000_2_0017535600_1,
    13914000_3_0018136800_2], .alternating 3 2 northAmerican 90 114]⟩,
  ⟨["America/Barbados"], [-14309, -14400, -10800, -12600],
    [.singly [3523406309_1_0966992491_2_0011581200_1_0021078000_2_0010890000_1_0018831600_3,
    13222800_1_1033603200_2_0009673200_1_0016938000_2_0014511600_1_0016938000_2,
    14511600_1_0017542800_2_0013647600_1]]⟩,
  ⟨["America/Belem"], [-11636, -10800, -7200],
    [.singly [3597448436_1_0560256364_2_0015595200_1_0015987600_2_0015548400_1_0526006800_2,
    11750400_1_0019785600_2_0010450800_1_0021085200_2_0010537200_1_0021085200_2,
    7772400_1_0339987600_2_0007167600_1_0029034000_2_0005094000_1_0021171600_2,
    7772400_1_0021171600_2_0010364400_1_0021171600_2_0010450800_1_0557715600_2,
    11487600_1_0019357200_2_0009673200_1_0021862800_2_0009068400_1]]⟩,
  ⟨["America/Belize"], [-21168, -21600, -19800, -18000],
    [.singly [3542161968_1_0205546032_2_0010884600_1_0020565000_2_0011489400_1_0019960200_2,
    11489400_1_0019960200_2_0011489400_1_0020565000_2_0010884600_1_0020565000_2,
    10884600_1_0020565000_2_0011489400_1_0019960200_2_0011489400_1_0019960200_2,
    11489400_1_0019960200_2_0011489400_1_0020565000_2_0010884600_1_0020565000_2,
    10884600_1_0020565000_2_0011489400_1_0019960200_2_0011489400_1_0019960200_2,
    11489400_1_0020565000_2_0010884600_1_0020565000_2_0010884600_1_0020565000_2,
    10884600_1_0020565000_2_0011489400_1_0019960200_2_0011489400_1_0019960200_2,
    11489400_1_0020565000_2_0010884600_1_0020565000_2_0010884600_1_0020565000_2,
    11489400_1_0011493000_3_0109465200_1_0056854800_2_0011489400_1_0019960200_2,
    11489400_1_0019960200_2_0011489400_1_0020565000_2_0010884600_1_0020565000_2,
    10884600_1_0020565000_2_0011489400_1_0019960200_2_0011489400_1_0019960200_2,
    11489400_1_0019960200_2_0011489400_1_0020565000_2_0010884600_1_0020565000_2,
    10884600_1_0020565000_2_0011489400_1_0019960200_2_0011489400_1_0019960200_2,
    11489400_1_0020565000_2_0010884600_1_0020565000_2_0010884600_1_0020565000_2,
    10884600_1_0020565000_2_0011489400_1_0019960200_2_0011489400_1_0019960200_2,
    11489400_1_0020565000_2_0010884600_1_0183515400_3_0005698800_1_0279421200_3, 4834800_1]]⟩,
  ⟨["America/Boa_Vista"], [-14560, -14400, -10800],
    [.singly [3597451360_1_0560257040_2_0015595200_1_0015987600_2_0015548400_1_0526006800_2,
    11750400_1_0019785600_2_0010450800_1_0021085200_2_0010537200_1_0021085200_2,
    7772400_1_0339987600_2_0007167600_1_0029034000_2_0005094000_1_0021171600_2,
    7772400_1_0021171600_2_0010364400_1_0021171600_2_0010450800_1_0557715600_2,
    11487600_1_0019357200_2_0009673200_1_0021862800_2_0009068400_1_0367722000_2,
    12697200_1_0019357200_2_0000601200_1]]⟩,
  ⟨["America/Bogota"], [-17776, -18000, -14400],
    [.singly [3625620976_1_2443910624_2_0024188400_1]]⟩,
  ⟨["America/Boise"], [-27889, -28800, -25200, -21600],
    [.singly [2647022400_1_1084370400_2_0018140400_1_0013309200_2_0018140400_1_0111891600_2,
    591577200_3_0114822000_2_0681008400_3], .alternating 2 3 northAmerican 37 50,
    .singly [8470800_3_0022978800_2], .alternating 3 2 northAmerican 52 302]⟩,
  ⟨["America/Cambridge_Bay"], [0, -25200, -21600, -18000],
    [.singly [3786739200_1_0697712400_2_0114822000_1_0838861200_2],
    .alternating 1 2 egyptian 130 148, .alternating 1 2 northAmerican 65 101,
    .singly [31446000_3_0018738000_2_0030855600_1], .alternating 2 1 northAmerican 106 302]⟩,
  ⟨["America/Campo_Grande"], [-13108, -14400, -10800],
    [.singly [3597449908_1_0560258492_2_0015595200_1_0015987600_2_0015548400_1_0526006800_2,
    11750400_1_0019785600_2_0010450800_1_0021085200_2_0010537200_1_0021085200_2,
    7772400_1_0339987600_2_0007167600_1_0029034000_2_0005094000_1_0021171600_2,
    7772400_1_0021171600_2_0010364400_1_0021171600_2_0010450800_1_0557715600_2],
    .alternating 1 2 brazilian 0 67]⟩,
  ⟨["America/Cancun"], [-20824, -21600, -18000, -14400],
    [.singly [3849919200_1_1892944800_2_0032302800_1_0418359600_2_0017535600_1_0013914000_2,
    31446000_3_0010278000_2_0007261200_1_0013914000_2_0018140400_1_0013309200_2,
    18140400_1_0016333200_2_0012697200_1_0016333200_2], .alternating 1 2 northAmerican 107 116,
    .alternating 2 1 northAmerican 82 98, .singly [8470800_2]]⟩,
  ⟨["America/Caracas"], [-16064, -16060, -16200, -14400],
    [.singly [2840156864_1_0697766396_2_1668988940_3_1354933800_2_0264902400_3]]⟩,
  ⟨["America/Cayenne"], [-12560, -14400, -10800], [.singly [3518393360_1_1775176240_2]]⟩,
  ⟨["America/Chicago", "CST6CDT", "US/Central"], [-21036, -21600, -18000],
    [.singly [2647015200_1_1084370400_2_0018140400_1_0013309200_2_0018140400_1_0019962000_2,
    12092400_1_0012704400_2_0018745200_1_0015728400_2], .alternating 1 2 chilean 22 31,
    .singly [18147600_2_0013302000_1_0018752400_2_0013302000_1_0018147600_2],
    .alternating 1 2 chilean 46 56,
    .singly [13302000_1_0018147600_2_0013302000_1_0013309200_2_0022374000_1_0013914000_2,
    13302000_1_0018147600_2_0013302000_1_0018752400_2_0012697200_1_0018752400_2,
    13302000_1_0018147600_2_0013302000_1_0011581200_2_0114822000_1],
    .alternating 2 1 european 19 27, .alternating 2 1 chilean 21 31, .singly [18147600_2],
    .alternating 1 2 egyptian 128 139, .alternating 2 1 egyptian 129 148,
    .alternating 1 2 northAmerican 43 302]⟩,
  ⟨["America/Chihuahua"], [-25460, -25200, -21600, -18000],
    [.singly [3849922800_1_0171590400_2_0108342000_1_0014346000_2_0013302000_1_0015814800_2,
    2020208400_3_0017535600_2_0013914000_3_0017535600_2_0031453200_1_0013914000_2,
    18140400_1_0013309200_2_0018140400_1_0016333200_2_0012697200_1_0016333200_2],
    .alternating 1 2 northAmerican 107 116, .alternating 2 1 northAmerican 82 113]⟩,
  ⟨["America/Ciudad_Juarez"], [-25556, -25200, -21600, -18000],
    [.singly [3849922800_1_0171590400_2_0108342000_1_0014346000_2_0013302000_1_0015814800_2,
    2020208400_3_0017535600_2_0013914000_3_0017535600_2_0031453200_1_0013914000_2,
    18140400_1_0013309200_2_0018140400_1_0016333200_2_0012697200_1_0016333200_2],
    .alternating 1 2 northAmerican 107 116,
    .singly [13309200_2_0018140400_1_0013914000_2_0017535600_1_0013914000_2_0017535600_1,
    12099600_2], .alternating 1 2 northAmerican 257 281, .singly [22626000_1_0008823600_2],
    .alternating 1 2 northAmerican 149 302]⟩,
  ⟨["America/Costa_Rica"], [-20173, -21600, -18000],
    [.singly [3819591373_1_1833841427_2_0008463600_1_0022986000_2_0008463600_1_0335581200_2,
    14079600_1_0017370000_2_0004921200_1]]⟩,
  ⟨["America/Coyhaique"], [-17296, -16965, -18000, -14400, -10800],
    [.singly [2840158096_1_0631842869_2_0204250635_1_0069205365_3_0025399035_1_0257820165_3,
    18400635_2_0013222800_3_0018313200_2_0013222800_3_0018313200_2_0013222800_3,
    18313200_2_0013222800_3_0018399600_2_0013222800_3_0307580400_2_0005274000_3,
    147222000_2_0004406400_3_0677030400_4], .alternating 3 4 chilean 0 110]⟩,
  ⟨["America/Cuiaba"], [-13460, -14400, -10800],
    [.singly [3597450260_1_0560258140_2_0015595200_1_0015987600_2_0015548400_1_0526006800_2,
    11750400_1_0019785600_2_0010450800_1_0021085200_2_0010537200_1_0021085200_2,
    7772400_1_0339987600_2_0007167600_1_0029034000_2_0005094000_1_0021171600_2,
    7772400_1_0021171600_2_0010364400_1_0021171600_2_0010450800_1_0557715600_2],
    .alternating 1 2 brazilian 0 35, .singly [54003600_2], .alternating 1 2 brazilian 38 67]⟩,
  ⟨["America/Danmarkshavn"], [-4480, -10800, -7200, 0],
    [.singly [3678570880_1_2009936720_2_0015105600_1], .alternating 2 1 tasmanian 194 224,
    .singly [8560800_3]]⟩,
  ⟨["America/Dawson"], [-33460, -32400, -28800, -25200],
    [.singly [3175665460_1_0556940540_2_0016930800_1_0018147600_2_0013813200_1_0702961200_2,
    114822000_1_0617497200_3_0016329600_1_0252201600_2_0205030800_3],
    .alternating 2 3 northAmerican 63 143]⟩,
  ⟨["America/Dawson_Creek"], [-28856, -28800, -25200],
    [.singly [2650780856_1_1081821544_2_0016930800_1_0734922000_2_0114822000_1_0049597200_2],
    .alternating 1 2 chilean 70 78, .alternating 1 2 european 18 27,
    .singly [18752400_2_0013302000_1_0018147600_2], .alternating 1 2 chilean 46 56,
    .alternating 1 2 egyptian 120 139, .singly [15728400_2]]⟩,
  ⟨["America/Denver", "America/Shiprock", "MST7MDT", "Navajo", "US/Mountain"],
    [-25196, -25200, -21600],
    [.singly [2647018800_1_1084370400_2_0018140400_1_0013309200_2_0018140400_1_0013309200_2,
    18745200_1_0012704400_2_0004834800_1_0653878800_2_0114822000_1_0617504400_2],
    .alternating 1 2 egyptian 138 148, .alternating 1 2 northAmerican 43 302]⟩,
  ⟨["America/Detroit", "US/Michigan"], [-19931, -21600, -18000, -14400],
    [.singly [3313459931_1_0327119269_2_0843865200_3_0114822000_2_0081046800_3_0013302000_2,
    590540460_3_0011840340_2_0015728400_3_0015721200_2_0142131600_3_0015721200_2,
    6051600_3_0025398000_2_0015728400_3_0015721200_2], .alternating 3 2 northAmerican 54 302]⟩,
  ⟨["America/Edmonton", "America/Yellowknife", "Canada/Mountain"], [-27232, -25200, -21600],
    [.singly [3365998432_1_0366600368_2_0016930800_1_0014518800_2_0003798000_1_0028861200_2,
    16326000_1_0015123600_2_0013302000_1_0018752400_2_0012697200_1_0018752400_2,
    13302000_1_0579488400_2_0114822000_1_0049597200_2_0013302000_1_0775962000_2],
    .alternating 1 2 egyptian 130 148, .alternating 1 2 northAmerican 65 302]⟩,
  ⟨["America/Eirunepe"], [-16768, -18000, -14400],
    [.singly [3597453568_1_0560258432_2_0015595200_1_0015987600_2_0015548400_1_0526006800_2,
    11750400_1_0019785600_2_0010450800_1_0021085200_2_0010537200_1_0021085200_2,
    7772400_1_0339987600_2_0007167600_1_0029034000_2_0005094000_1_0021171600_2,
    7772400_1_0021171600_2_0010364400_1_0021171600_2_0010450800_1_0557715600_2,
    11487600_1_0019357200_2_0009673200_1_0021862800_2_0009068400_1_0179629200_2,
    10882800_1_0452566800_2_0169772400_1]]⟩,
  ⟨["America/El_Salvador"], [-21408, -21600, -18000],
    [.singly [3818383008_1_2093299392_2_0012697200_1_0018752400_2_0012697200_1]]⟩,
  ⟨["America/Fort_Nelson"], [-29447, -28800, -25200],
    [.singly [2650781447_1_1081820953_2_0016930800_1_0734922000_2_0114822000_1_0049597200_2],
    .alternating 1 2 chilean 70 78, .alternating 1 2 european 18 27,
    .singly [18752400_2_0013302000_1_0018147600_2], .alternating 1 2 chilean 46 56,
    .alternating 1 2 egyptian 120 139, .alternating 2 1 egyptian 129 148,
    .alternating 1 2 northAmerican 65 133]⟩,
  ⟨["America/Fortaleza"], [-9240, -10800, -7200],
    [.singly [3597446040_1_0560258760_2_0015595200_1_0015987600_2_0015548400_1_0526006800_2,
    11750400_1_0019785600_2_0010450800_1_0021085200_2_0010537200_1_0021085200_2,
    7772400_1_0339987600_2_0007167600_1_0029034000_2_0005094000_1_0021171600_2,
    7772400_1_0021171600_2_0010364400_1_0021171600_2_0010450800_1_0557715600_2],
    .alternating 1 2 brazilian 0 9,
    .singly [304218000_2_0012697200_1_0019357200_2_0001206000_1_0030848400_2_0010882800_1]]⟩,
  ⟨["America/Glace_Bay"], [-14388, -14400, -10800],
    [.singly [3233015988_1_0499572012_2_0016930800_1_0734922000_2_0114822000_1_0238899600_2,
    13302000_1_0586659600_2], .alternating 1 2 egyptian 130 148,
    .alternating 1 2 northAmerican 65 302]⟩,
  ⟨["America/Goose_Bay"], [-14500, -12652, -9052, -12600, -9000, -14400, -10800, -7200],
    [.singly [2650766500_1_1081819752_2_0016930800_1_0518223600_3_0035251148_4_0012697200_3,
    18752400_4_0012697200_3_0018752400_4_0012697200_3_0019357200_4_0012092400_3,
    19357200_4_0012697200_3_0018752400_4_0012697200_3_0018752400_4_0106966800_3,
    19357200_4_0012697200_3_0018752400_4_0012697200_3_0018752400_4_0012697200_3,
    18752400_4_0012697200_3_0019357200_4_0012697200_3_0017542800_4],
    .alternating 3 4 european 18 27, .alternating 4 3 chilean 45 53, .singly [18147600_4],
    .alternating 3 4 egyptian 128 139, .singly [11667600_5_0003457800_6_0016326000_5],
    .alternating 6 5 northAmerican 36 50, .alternating 6 5 egyptian 121 147,
    .singly [13906860_6_0017535600_5_0013914000_7_0018136800_5_0013312800_6],
    .alternating 5 6 northAmerican 81 125, .singly [20566740_5],
    .alternating 6 5 northAmerican 126 302]⟩,
  ⟨["America/Grand_Turk"], [-17072, -18430, -18000, -14400],
    [.singly [2840157872_1_0696817358_2_2121904370_3], .alternating 2 3 northAmerican 61 133,
    .singly [115513200_2], .alternating 3 2 northAmerican 140 302]⟩,
  ⟨["America/Guatemala"], [-21724, -21600, -18000],
    [.singly [3747621724_1_1740095876_2_0007858800_1_0291430800_2_0010710000_1_0236653200_2,
    14511600_1_0462157200_2_0013302000_1]]⟩,
  ⟨["America/Guayaquil"], [-19160, -18840, -18000, -14400],
    [.singly [2840159960_1_1293753280_2_1953675960_3_0005958000_2]]⟩,
  ⟨["America/Guyana"], [-13959, -14400, -13500, -10800],
    [.singly [3521073159_1_0113011641_2_1906674300_3_0525744900_1]]⟩,
  ⟨["America/Halifax", "Canada/Atlantic"], [-15264, -14400, -10800],
    [.singly [3233016864_1_0435368736_2_0015807600_1_0048394800_2_0016930800_1_0048380400_2,
    9673200_1_0021603600_2_0010537200_1_0020480400_2_0011055600_1_0020998800_2,
    10450800_1_0020998800_2_0011574000_1_0019875600_2_0012783600_1_0019875600_2,
    10364400_1_0019875600_2_0012783600_1_0019875600_2_0010278000_1_0021171600_2,
    9846000_1_0021603600_2_0010969200_1_0020480400_2_0012178800_1_0018666000_2,
    12783600_1_0018666000_2_0013388400_1_0019875600_2_0010278000_1_0022381200_2,
    10364400_1_0021171600_2_0009068400_1_0019875600_2_0012783600_1_0018666000_2,
    12783600_1_0021085200_2_0010364400_1_0019270800_2_0012783600_1_0018666000_2,
    12783600_1_0011502000_2_0114822000_1], .alternating 2 1 european 19 27,
    .singly [50202000_2_0013302000_1_0018147600_2_0013302000_1_0018147600_2_0013302000_1,
    18147600_2_0013302000_1_0050202000_2_0013302000_1_0018147600_2_0013302000_1,
    18147600_2_0013302000_1_0018147600_2_0013302000_1_0081651600_2],
    .alternating 1 2 egyptian 120 139, .alternating 2 1 egyptian 129 148,
    .alternating 1 2 northAmerican 65 302]⟩,
  ⟨["America/Havana", "Cuba"], [-19768, -19776, -18000, -14400],
    [.singly [2840160568_1_1121688008_2_0091279824_3_0010537200_2_0367462800_3_0007858800_2,
    23590800_3_0008463600_2_0023590800_3_0007858800_2_0086490000_3_0007858800_2,
    23590800_3_0007858800_2_0591670800_3_0010450800_2_0020826000_3_0010882800_2,
    16246800_3_0013388400_2_0018752400_3_0012697200_2_0019962000_3_0015721200_2,
    15728400_3_0015721200_2_0015728400_3_0016326000_2_0015728400_3_0013906800_2,
    17542800_3_0013993200_2_0017456400_3_0014079600_2_0017370000_3_0015721200_2,
    15728400_3_0016326000_2_0015123600_3_0016326000_2_0016333200_3_0013302000_2,
    13914000_3_0018140400_2_0013309200_3_0018140400_2_0018147600_3_0013302000_2,
    18147600_3_0013302000_2_0018147600_3_0013302000_2_0018147600_3_0013906800_2,
    17542800_3_0013906800_2], .alternating 3 2 northAmerican 102 110,
    .singly [15123600_3_0016930800_2_0015123600_3], .alternating 2 3 newZealand 234 244,
    .singly [15724800_2_0015724800_3_0016329600_2_0014515200_3_0018144000_2_0013305600_3,
    18748800_2_0013305600_3_0018144000_2_0013305600_3_0018144000_2_0013910400_3,
    17539200_2_0013910400_3_0017539200_2_0013305600_3_0081648000_2_0011491200_3,
    19958400_2_0012096000_3_0019353600_2_0011491200_3_0019958400_2_0012096000_3,
    19958400_2_0012096000_3_0020563200_2_0012096000_3_0018748800_2],
    .alternating 3 2 newZealand 8 24, .alternating 3 2 newZealand 2 24,
    .alternating 3 2 newZealand 2 29, .alternating 2 3 newZealand 7 29,
    .alternating 2 3 newZealand 7 29, .alternating 2 3 newZealand 5 24,
    .alternating 3 2 newZealand 2 24, .alternating 3 2 newZealand 2 26]⟩,
  ⟨["America/Hermosillo"], [-26632, -25200, -21600],
    [.singly [3849922800_1_0171590400_2_0108342000_1_0014346000_2_0013302000_1_0015814800_2,
    317516400_1_1702695600_2_0017535600_1_0013914000_2_0017535600_1_0013914000_2, 17535600_1]]⟩,
  ⟨["America/Indiana/Indianapolis", "America/Fort_Wayne", "America/Indianapolis",
    "US/East-Indiana"], [-20678, -21600, -18000, -14400],
    [.singly [2647015200_1_1084370400_2_0018140400_1_0013309200_2_0018140400_1_0683427600_2,
    8463600_1_0011581200_2_0114822000_1], .alternating 2 1 european 19 27,
    .alternating 2 1 chilean 21 31,
    .singly [18147600_2_0076806000_1_0018147600_2_0347151600_3_0015721200_2_0015728400_3,
    15721200_2_1118278800_3], .alternating 2 3 northAmerican 115 302]⟩,
  ⟨["America/Indiana/Knox", "America/Knox_IN", "US/Indiana-Starke"], [-20790, -21600, -18000],
    [.singly [2647015200_1_1084370400_2_0018140400_1_0013309200_2_0018140400_1_0703472400_2,
    114822000_1_0049597200_2], .alternating 1 2 chilean 70 78, .alternating 1 2 european 18 26,
    .singly [16326000_1_0015728400_2_0015721200_1_0015728400_2_0013302000_1_0018147600_2,
    13302000_1_0018147600_2_0015721200_1_0015728400_2_0016326000_1_0015728400_2,
    15721200_1_0015728400_2_0047170800_1_0110682000_2], .alternating 1 2 northAmerican 37 85,
    .singly [491094000_1], .alternating 2 1 northAmerican 116 302]⟩,
  ⟨["America/Indiana/Marengo"], [-20723, -21600, -18000, -14400],
    [.singly [2647015200_1_1084370400_2_0018140400_1_0013309200_2_0018140400_1_0703472400_2,
    114822000_1_0176000400_2_0013302000_1_0081046800_2_0013302000_1_0018147600_2,
    13302000_1_0018752400_2], .alternating 1 2 european 18 27, .singly [18752400_2_0252198000_3],
    .alternating 2 3 northAmerican 41 50, .singly [41734800_3_0021164400_2_0960426000_3],
    .alternating 2 3 northAmerican 115 302]⟩,
  ⟨["America/Indiana/Petersburg"], [-20947, -21600, -18000, -14400],
    [.singly [2647015200_1_1084370400_2_0018140400_1_0013309200_2_0018140400_1_0703472400_2,
    114822000_1_0302396400_2_0012704400_1_0018752400_2], .alternating 1 2 european 18 27,
    .singly [18752400_2], .alternating 1 2 egyptian 130 138, .singly [47775600_1],
    .alternating 2 1 northAmerican 36 57, .singly [931388400_1_0011494800_2_0031446000_3],
    .alternating 2 3 northAmerican 119 302]⟩,
  ⟨["America/Indiana/Tell_City"], [-20823, -21600, -18000, -14400],
    [.singly [2647015200_1_1084370400_2_0018140400_1_0013309200_2_0018140400_1_0703472400_2,
    114822000_1_0302396400_2_0012704400_1_0018752400_2], .alternating 1 2 european 18 27,
    .singly [18752400_2_0015721200_1_0015728400_2_0015721200_1_0015728400_2_0015721200_1,
    15728400_2_0110674800_1_0015728400_2_0015721200_1_0015728400_3_0015717600_2,
    15728400_3_0015721200_2_1136422800_1], .alternating 2 1 northAmerican 116 302]⟩,
  ⟨["America/Indiana/Vevay"], [-20416, -21600, -18000, -14400],
    [.singly [2647015200_1_1084370400_2_0018140400_1_0013309200_2_0018140400_1_0703472400_2,
    114822000_1_0270349200_2_0473554800_3_0015721200_2_0015728400_3_0015721200_2,
    15728400_3_0016326000_2_0015728400_3_0015721200_2_1054774800_3],
    .alternating 2 3 northAmerican 115 302]⟩]

def americaSouth : List Row := [
  ⟨["America/Indiana/Vincennes"], [-21007, -21600, -18000, -14400],
    [.singly [2647015200_1_1084370400_2_0018140400_1_0013309200_2_0018140400_1_0703472400_2,
    114822000_1_0018147600_2_0013302000_1_0207450000_2_0013302000_1_0018147600_2,
    13302000_1_0018745200_2_0012704400_1], .alternating 2 1 chilean 45 53,
    .singly [18147600_2_0016326000_1_0015728400_2_0012697200_1_0018752400_2_0015721200_1,
    15728400_2_0015721200_1_0015728400_2_0157849200_3_0015721200_2_0015728400_3,
    15721200_2_1136422800_1_0011494800_2_0031446000_3], .alternating 2 3 northAmerican 119 302]⟩,
  ⟨["America/Indiana/Winamac"], [-20785, -21600, -18000, -14400],
    [.singly [2647015200_1_1084370400_2_0018140400_1_0013309200_2_0018140400_1_0703472400_2,
    114822000_1], .alternating 2 1 european 19 27, .alternating 2 1 chilean 21 31,
    .singly [18147600_2_0016326000_1_0015728400_2_0015721200_1_0015728400_2],
    .alternating 1 2 chilean 46 54,
    .singly [252198000_3_0015721200_2_0015728400_3_0015721200_2_1136422800_1_0011494800_3,
    20556000_2], .alternating 3 2 northAmerican 118 302]⟩,
  ⟨["America/Inuvik"], [0, -28800, -25200, -21600],
    [.singly [4828204800_1_0609933600_2], .alternating 1 2 egyptian 130 143,
    .singly [15728400_3_0015717600_2], .alternating 3 2 northAmerican 62 302]⟩,
  ⟨["America/Iqaluit", "America/Pangnirtung"], [0, -14400, -18000, -21600],
    [.singly [4499366400_1_0099900000_2_0838861200_1], .alternating 2 1 egyptian 130 148,
    .alternating 2 1 northAmerican 65 101, .singly [18140400_3_0013312800_2_0031446000_1],
    .alternating 2 1 northAmerican 105 302]⟩,
  ⟨["America/Jamaica", "Jamaica"], [-18430, -18000, -14400],
    [.singly [3536975230_1_1954374770_2], .alternating 1 2 northAmerican 51 70]⟩,
  ⟨["America/Juneau"], [54139, -32261, -28800, -25200, -32400],
    [.singly [2139438673_1_1036268788_2_1308747739_3_0114822000_2_0743907600_3],
    .alternating 2 3 northAmerican 41 62,
    .singly [47178000_3_0015721200_2_0015728400_3_0016326000_2_0015123600_3_0016326000_4,
    15732000_2], .alternating 4 2 northAmerican 71 302]⟩,
  ⟨["America/Kentucky/Louisville", "America/Louisville"], [-20582, -21600, -18000, -14400],
    [.singly [2647015200_1_1084370400_2_0018140400_1_0013309200_2_0018140400_1_0047782800_2,
    10623600_1_0620182800_2_0013302000_1_0011581200_2_0114822000_1_0018140460_2,
    3027540_1_0123382800_2], .alternating 1 2 chilean 22 31,
    .singly [18147600_2_0013302000_1_0018752400_2], .alternating 1 2 northAmerican 37 47,
    .singly [220748400_3], .alternating 2 3 northAmerican 39 50, .singly [41734800_3],
    .alternating 2 3 northAmerican 53 302]⟩,
  ⟨["America/Kentucky/Monticello"], [-20364, -21600, -18000, -14400],
    [.singly [2647015200_1_1084370400_2_0018140400_1_0013309200_2_0018140400_1_0703472400_2,
    114822000_1_0712458000_2], .alternating 1 2 northAmerican 39 103, .singly [31446000_3],
    .alternating 2 3 northAmerican 105 302]⟩,
  ⟨["America/La_Paz"], [-16356, -12756, -14400], [.singly [4158707556_1_0013647600_2]]⟩,
  ⟨["America/Lima"], [-18492, -18516, -18000, -14400],
    [.singly [2840159292_1_0585964824_2_0928713084_3_0007772400_2_0015296400_3_0015721200_2,
    15728400_3_0015721200_2_1444525200_3_0007772400_2_0023763600_3_0007772400_2,
    86922000_3_0007772400_2_0118458000_3_0007772400_2]]⟩,
  ⟨["America/Los_Angeles", "PST8PDT", "US/Pacific"], [-28378, -28800, -25200],
    [.singly [2647022400_1_1084370400_2_0018140400_1_0013309200_2_0018140400_1_0703472400_2,
    114822000_1], .alternating 2 1 northAmerican 0 302]⟩,
  ⟨["America/Maceio"], [-8572, -10800, -7200],
    [.singly [3597445372_1_0560259428_2_0015595200_1_0015987600_2_0015548400_1_0526006800_2,
    11750400_1_0019785600_2_0010450800_1_0021085200_2_0010537200_1_0021085200_2,
    7772400_1_0339987600_2_0007167600_1_0029034000_2_0005094000_1_0021171600_2,
    7772400_1_0021171600_2_0010364400_1_0021171600_2_0010450800_1_0557715600_2],
    .alternating 1 2 brazilian 0 9,
    .singly [179024400_2_0010278000_1_0114915600_2_0012697200_1_0019357200_2_0001206000_1,
    30848400_2_0010882800_1]]⟩,
  ⟨["America/Managua"], [-20708, -20712, -21600, -18000],
    [.singly [2840161508_1_1403395204_2_1226189688_3_0056674800_2_0128826000_3_0008550000_2,
    22899600_3_0008550000_2_0363675600_3_0023050800_2_0008557200_3_0126226800_2,
    261018000_3_0015116400_2_0018154800_3_0013298400_2]]⟩,
  ⟨["America/Manaus", "Brazil/West"], [-14404, -14400, -10800],
    [.singly [3597451204_1_0560257196_2_0015595200_1_0015987600_2_0015548400_1_0526006800_2,
    11750400_1_0019785600_2_0010450800_1_0021085200_2_0010537200_1_0021085200_2,
    7772400_1_0339987600_2_0007167600_1_0029034000_2_0005094000_1_0021171600_2,
    7772400_1_0021171600_2_0010364400_1_0021171600_2_0010450800_1_0557715600_2,
    11487600_1_0019357200_2_0009673200_1_0021862800_2_0009068400_1_0179629200_2, 10882800_1]]⟩,
  ⟨["America/Martinique"], [-14660, -14400, -10800],
    [.singly [3513125060_1_2175378940_2_0015116400_1]]⟩,
  ⟨["America/Matamoros"], [-23400, -21600, -18000],
    [.singly [3849919200_1_2090800800_2_0018140400_1_0234666000_2],
    .alternating 1 2 northAmerican 95 104, .singly [16333200_2_0012697200_1_0016333200_2],
    .alternating 1 2 northAmerican 107 116,
    .singly [13309200_2_0018140400_1_0013914000_2_0017535600_1_0013914000_2_0017535600_1,
    12099600_2], .alternating 1 2 northAmerican 123 302]⟩,
  ⟨["America/Mazatlan", "Mexico/BajaSur"], [-25540, -25200, -21600],
    [.singly [3849922800_1_0171590400_2_0108342000_1_0014346000_2_0013302000_1_0015814800_2,
    317516400_1_1702695600_2], .alternating 1 2 northAmerican 95 104,
    .singly [16333200_2_0012697200_1_0016333200_2], .alternating 1 2 northAmerican 107 116,
    .alternating 2 1 northAmerican 82 114]⟩,
  ⟨["America/Menominee"], [-21027, -21600, -18000],
    [.singly [2704902627_1_1026482973_2_0018140400_1_0013309200_2_0018140400_1_0703472400_2,
    114822000_1_0018147600_2_0013302000_1_0617504400_2_0016326000_1_0078627600_2, 142124400_1],
    .alternating 2 1 northAmerican 50 302]⟩,
  ⟨["America/Merida"], [-21508, -21600, -18000],
    [.singly [3849919200_1_1892944800_2_0026866800_1_0423795600_2],
    .alternating 1 2 northAmerican 95 104, .singly [16333200_2_0012697200_1_0016333200_2],
    .alternating 1 2 northAmerican 107 116, .alternating 2 1 northAmerican 82 114]⟩,
  ⟨["America/Metlakatla"], [54822, -31578, -28800, -25200, -32400],
    [.singly [2139438673_1_1036268105_2_1308748422_3_0114822000_2_0743907600_3],
    .alternating 2 3 northAmerican 41 70,
    .singly [1010019600_4_0011494800_2_0020559600_4_0010890000_2_0020559600_4_0010890000_2,
    27212400_4_0004237200_2], .alternating 4 2 northAmerican 141 302]⟩,
  ⟨["America/Mexico_City", "Mexico/General"], [-23796, -25200, -21600, -18000],
    [.singly [3849922800_1_0171590400_2_0108342000_1_0014346000_2_0013302000_1_0015814800_2,
    216082800_3_0012092400_2_0046054800_3_0009759600_2_0085453200_3_0011833200_2,
    182566800_3_0014511600_2_1441854000_3], .alternating 2 3 northAmerican 95 104,
    .singly [16333200_3_0012697200_2_0016333200_3], .alternating 2 3 northAmerican 107 116,
    .alternating 3 2 northAmerican 82 114]⟩,
  ⟨["America/Miquelon"], [-13480, -14400, -10800, -7200],
    [.singly [3517011880_1_2173652120_2_0218595600_3], .alternating 2 3 northAmerican 77 302]⟩,
  ⟨["America/Moncton"], [-15548, -18000, -14400, -10800],
    [.singly [2648780348_1_0584239252_2_0499568400_3_0016930800_2_0461462400_3_0007858800_2,
    23590800_3_0007858800_2_0023590800_3_0007858800_2_0023590800_3_0007858800_2,
    23590800_3_0007858800_2_0023590800_3_0007858800_2_0022899600_3_0010278000_2,
    20653200_3_0010796400_2_0019443600_3_0012610800_2_0011671200_3_0114822000_2, 18147600_3],
    .alternating 2 3 chilean 46 56, .alternating 2 3 european 18 27,
    .singly [18752400_3_0013302000_2_0018147600_3], .alternating 2 3 northAmerican 39 50,
    .alternating 3 2 egyptian 121 139, .singly [15728400_3_0015721200_2_0047178000_3],
    .alternating 2 3 egyptian 134 148, .alternating 2 3 northAmerican 65 88, .singly [13906860_3],
    .alternating 2 3 northAmerican 89 116, .singly [11501940_3],
    .alternating 2 3 northAmerican 117 302]⟩,
  ⟨["America/Monterrey"], [-24076, -25200, -21600, -18000],
    [.singly [3849919200_1_0171594000_2_0108342000_1_0014346000_2_0013302000_1_0015814800_2,
    1767402000_3_0018140400_2_0234666000_3], .alternating 2 3 northAmerican 95 104,
    .singly [16333200_3_0012697200_2_0016333200_3], .alternating 2 3 northAmerican 107 116,
    .alternating 3 2 northAmerican 82 114]⟩,
  ⟨["America/Montevideo"], [-13491, -14400, -10800, -12600, -9000, -7200, -5400],
    [.singly [3797207091_1_0107828109_2_0015807600_3_0015813000_2_0015723000_3_0015813000_2,
    15723000_3_0239157000_2], .alternating 3 2 lordHowe 21 30,
    .singly [18750600_2_0012699000_3_0016331400_2_0015723000_3_0018145800_2_0013303800_3,
    10715400_2_0043198200_4_0007774200_2_0511057800_4_0015118200_2_0005445000_5,
    4230000_2_0160275600_5_0015116400_2_0084157200_4_0016241400_2_0044065800_5,
    4316400_2_0058669200_5_0007254000_2_0047178000_6_0004833000_4_0015123600_2,
    9678600_5_0008463600_2_0054435600_5_0006649200_2_0023590800_5_0007858800_2,
    24800400_5_0006649200_2_0004842000_5_0027817200_2_0244429200_5_0006562800_2,
    24800400_5_0007254000_2_0020566800_5_0010278000_2_0020566800_5_0011487600_2,
    20566800_5_0010882800_2_0019962000_5_0011487600_2_0364698000_5_0016333200_2,
    16938000_5_0013302000_2_0017542800_5_0013906800_2_0018147600_5_0013302000_2,
    18147600_5_0013302000_2_0018147600_5_0013906800_2_0017542800_5_0013906800_2,
    17542800_5_0013906800_2_0018147600_5_0013302000_2_0018147600_5_0013302000_2,
    18147600_5_0013302000_2]]⟩,
  ⟨["America/New_York", "EST5EDT", "US/Eastern"], [-17762, -18000, -14400],
    [.singly [2647011600_1_1084370400_2_0018140400_1_0013309200_2_0018140400_1_0013309200_2,
    18745200_1_0015123600_2_0013302000_1], .alternating 2 1 chilean 21 31,
    .singly [18147600_2_0013302000_1_0018752400_2_0013302000_1_0018147600_2],
    .alternating 1 2 chilean 46 56, .singly [13302000_1_0018147600_2],
    .alternating 1 2 chilean 46 56,
    .singly [13302000_1_0018147600_2_0013302000_1_0011581200_2_0114822000_1],
    .alternating 2 1 european 19 27, .alternating 2 1 chilean 21 31, .singly [18147600_2],
    .alternating 1 2 egyptian 128 139, .alternating 2 1 egyptian 129 148,
    .alternating 1 2 northAmerican 43 302]⟩,
  ⟨["America/Nome"], [46702, -39698, -39600, -36000, -32400, -28800],
    [.singly [2139438673_1_1036276225_2_1308751102_3_0114822000_2_0743907600_3],
    .alternating 2 3 northAmerican 41 69, .singly [16326000_4_0015721200_5],
    .alternating 4 5 northAmerican 71 302]⟩,
  ⟨["America/Noronha", "Brazil/DeNoronha"], [-7780, -7200, -3600],
    [.singly [3597444580_1_0560256620_2_0015595200_1_0015987600_2_0015548400_1_0526006800_2,
    11750400_1_0019785600_2_0010450800_1_0021085200_2_0010537200_1_0021085200_2,
    7772400_1_0339987600_2_0007167600_1_0029034000_2_0005094000_1_0021171600_2,
    7772400_1_0021171600_2_0010364400_1_0021171600_2_0010450800_1_0557715600_2],
    .alternating 1 2 brazilian 0 9,
    .singly [304218000_2_0012697200_1_0019357200_2_0000601200_1_0031453200_2_0010882800_1]]⟩,
  ⟨["America/North_Dakota/Beulah"], [-24427, -25200, -21600, -18000],
    [.singly [2647018800_1_1084370400_2_0018140400_1_0013309200_2_0018140400_1_0703472400_2,
    114822000_1_0681008400_2], .alternating 1 2 northAmerican 37 123, .singly [31446000_3],
    .alternating 2 3 northAmerican 125 302]⟩,
  ⟨["America/North_Dakota/Center"], [-24312, -25200, -21600, -18000],
    [.singly [2647018800_1_1084370400_2_0018140400_1_0013309200_2_0018140400_1_0703472400_2,
    114822000_1_0681008400_2], .alternating 1 2 northAmerican 37 87, .singly [31446000_3],
    .alternating 2 3 northAmerican 89 302]⟩,
  ⟨["America/North_Dakota/New_Salem"], [-24339, -25200, -21600, -18000],
    [.singly [2647018800_1_1084370400_2_0018140400_1_0013309200_2_0018140400_1_0703472400_2,
    114822000_1_0681008400_2], .alternating 1 2 northAmerican 37 109, .singly [31446000_3],
    .alternating 2 3 northAmerican 111 302]⟩,
  ⟨["America/Nuuk", "America/Godthab"], [-12416, -10800, -7200, -3600],
    [.singly [3678578816_1_2009928784_2_0015105600_1_0015724800_2],
    .alternating 1 2 european 30 114, .singly [32054400_3], .alternating 2 3 european 116 267]⟩,
  ⟨["America/Ojinaga"], [-25060, -25200, -21600, -18000],
    [.singly [3849922800_1_0171590400_2_0108342000_1_0014346000_2_0013302000_1_0015814800_2,
    2020208400_3_0017535600_2_0013914000_3_0017535600_2_0031453200_1_0013914000_2,
    18140400_1_0013309200_2_0018140400_1_0016333200_2_0012697200_1_0016333200_2],
    .alternating 1 2 northAmerican 107 116,
    .singly [13309200_2_0018140400_1_0013914000_2_0017535600_1_0013914000_2_0017535600_1,
    12099600_2], .alternating 1 2 northAmerican 257 281, .singly [31446000_3],
    .alternating 2 3 northAmerican 149 302]⟩,
  ⟨["America/Panama", "America/Atikokan", "America/Cayman", "America/Coral_Harbour", "EST"],
    [-19088, -19176, -18000], [.singly [2840159888_1_0577584088_2]]⟩,
  ⟨["America/Paramaribo"], [-13240, -13252, -13236, -12600, -10800],
    [.singly [3502755640_1_0757382412_2_0339206384_3_1230767364_4]]⟩,
  ⟨["America/Phoenix", "America/Creston", "MST", "US/Arizona"], [-26898, -25200, -21600],
    [.singly [2647018800_1_1084370400_2_0018140400_1_0013309200_2_0018140400_1_0703472400_2,
    59691660_1_0007866000_2_0015807600_1_0712465140_2_0015721200_1]]⟩,
  ⟨["America/Port-au-Prince"], [-17360, -17340, -18000, -14400],
    [.singly [2840158160_1_0854020780_2_2091701460_3_0015116400_2],
    .alternating 3 2 egyptian 129 137,
    .singly [13917600_3_0018144000_2_0013305600_3_0018144000_2_0013305600_3_0018144000_2,
    13910400_3_0017539200_2_0013910400_3_0017539200_2_0013910400_3_0018144000_2,
    13305600_3_0018144000_2_0013305600_3_0018144000_2_0013910400_3_0017539200_2,
    13910400_3_0017539200_2_0234658800_3_0018140400_2_0013309200_3_0018140400_2,
    169354800_3_0020559600_2_0010890000_3_0020559600_2_0010890000_3_0020559600_2,
    10890000_3_0020559600_2_0042944400_3], .alternating 2 3 northAmerican 137 302]⟩,
  ⟨["America/Porto_Velho"], [-15336, -14400, -10800],
    [.singly [3597452136_1_0560256264_2_0015595200_1_0015987600_2_0015548400_1_0526006800_2,
    11750400_1_0019785600_2_0010450800_1_0021085200_2_0010537200_1_0021085200_2,
    7772400_1_0339987600_2_0007167600_1_0029034000_2_0005094000_1_0021171600_2,
    7772400_1_0021171600_2_0010364400_1_0021171600_2_0010450800_1_0557715600_2,
    11487600_1_0019357200_2_0009673200_1_0021862800_2_0009068400_1]]⟩,
  ⟨["America/Puerto_Rico", "America/Anguilla", "America/Antigua", "America/Aruba",
    "America/Blanc-Sablon", "America/Curacao", "America/Dominica", "America/Grenada",
    "America/Guadeloupe", "America/Kralendijk", "America/Lower_Princes", "America/Marigot",
    "America/Montserrat", "America/Port_of_Spain", "America/St_Barthelemy", "America/St_Kitts",
    "America/St_Lucia", "America/St_Thomas", "America/St_Vincent", "America/Tortola",
    "America/Virgin"], [-15865, -14400, -10800],
    [.singly [3131627065_1_1359977735_2_0107658000_1]]⟩,
  ⟨["America/Punta_Arenas"], [-17020, -16965, -18000, -14400, -10800],
    [.singly [2840157820_1_0631843145_2_0204250635_1_0069205365_3_0025399035_1_0257820165_3,
    18400635_2_0013222800_3_0018313200_2_0013222800_3_0018313200_2_0013222800_3,
    18313200_2_0013222800_3_0018399600_2_0013222800_3_0307580400_2_0005274000_3,
    147222000_2_0004406400_3_0677030400_4], .alternating 3 4 chilean 0 94]⟩,
  ⟨["America/Rankin_Inlet"], [0, -21600, -18000],
    [.singly [4954435200_1_0483696000_2], .alternating 1 2 egyptian 130 148,
    .alternating 1 2 northAmerican 65 103, .singly [49590000_1],
    .alternating 2 1 northAmerican 106 302]⟩,
  ⟨["America/Recife"], [-8376, -10800, -7200],
    [.singly [3597445176_1_0560259624_2_0015595200_1_0015987600_2_0015548400_1_0526006800_2,
    11750400_1_0019785600_2_0010450800_1_0021085200_2_0010537200_1_0021085200_2,
    7772400_1_0339987600_2_0007167600_1_0029034000_2_0005094000_1_0021171600_2,
    7772400_1_0021171600_2_0010364400_1_0021171600_2_0010450800_1_0557715600_2],
    .alternating 1 2 brazilian 0 9,
    .singly [304218000_2_0012697200_1_0019357200_2_0000601200_1_0031453200_2_0010882800_1]]⟩,
  ⟨["America/Regina", "Canada/Saskatchewan"], [-25116, -25200, -21600],
    [.singly [3334460316_1_0398138484_2_0016930800_1_0363481200_2], .alternating 1 2 chilean 70 78,
    .singly [13302000_1_0079232400_2_0015721200_1_0015728400_2_0015116400_1_0016333200_2,
    15721200_1_0016333200_2_0015721200_1_0015728400_2_0015721200_1_0010378800_2,
    114822000_1_0016938000_2_0015721200_1_0016938000_2], .alternating 1 2 chilean 70 78,
    .alternating 1 2 european 18 27,
    .singly [18752400_2_0013302000_1_0018147600_2_0013302000_1_0049597200_2_0015721200_1,
    15728400_2]]⟩,
  ⟨["America/Resolute"], [0, -21600, -18000],
    [.singly [4659724800_1_0778406400_2], .alternating 1 2 egyptian 130 148,
    .alternating 1 2 northAmerican 65 103, .singly [49590000_1],
    .alternating 2 1 northAmerican 106 115, .singly [50194800_1],
    .alternating 2 1 northAmerican 118 302]⟩,
  ⟨["America/Rio_Branco", "America/Porto_Acre", "Brazil/Acre"], [-16272, -18000, -14400],
    [.singly [3597453072_1_0560258928_2_0015595200_1_0015987600_2_0015548400_1_0526006800_2,
    11750400_1_0019785600_2_0010450800_1_0021085200_2_0010537200_1_0021085200_2,
    7772400_1_0339987600_2_0007167600_1_0029034000_2_0005094000_1_0021171600_2,
    7772400_1_0021171600_2_0010364400_1_0021171600_2_0010450800_1_0557715600_2,
    11487600_1_0019357200_2_0009673200_1_0021862800_2_0009068400_1_0643078800_2, 169772400_1]]⟩,
  ⟨["America/Santarem"], [-13128, -14400, -10800],
    [.singly [3597449928_1_0560258472_2_0015595200_1_0015987600_2_0015548400_1_0526006800_2,
    11750400_1_0019785600_2_0010450800_1_0021085200_2_0010537200_1_0021085200_2,
    7772400_1_0339987600_2_0007167600_1_0029034000_2_0005094000_1_0021171600_2,
    7772400_1_0021171600_2_0010364400_1_0021171600_2_0010450800_1_0557715600_2,
    11487600_1_0019357200_2_0009673200_1_0021862800_2_0009068400_1_0643078800_2]]⟩,
  ⟨["America/Santiago", "Chile/Continental"], [-16965, -18000, -14400, -10800],
    [.singly [3472000965_1_0204250635_0_0069205365_2_0025399035_0_0257820165_2_0018400635_1,
    13222800_2_0018313200_1_0013222800_2_0018313200_1_0013222800_2_0018313200_1,
    13222800_2_0018399600_1_0013222800_2_0307580400_1_0005274000_2_0124758000_3,
    3884400_2_0018579600_1_0004406400_2_0677030400_3], .alternating 2 3 chilean 0 260]⟩,
  ⟨["America/Santo_Domingo"], [-16776, -16800, -18000, -14400, -16200],
    [.singly [2840157576_1_1364731224_2_1059654000_3_0010450800_2_0083898000_4_0010193400_2,
    21256200_4_0007515000_2_0024539400_4_0007083000_2_0024366600_4_0007255800_2,
    24193800_4_0007342200_2_0024107400_3_0820717200_2_0003024000_3]]⟩,
  ⟨["America/Sao_Paulo", "Brazil/East"], [-11188, -10800, -7200],
    [.singly [3597447988_1_0560256812_2_0015595200_1_0015987600_2_0015548400_1_0526006800_2,
    11750400_1_0019785600_2_0010450800_1_0021085200_2_0010537200_1_0021085200_2,
    7772400_1_0335926800_2_0011228400_1_0029034000_2_0005094000_1_0021171600_2,
    7772400_1_0021171600_2_0010364400_1_0021171600_2_0010450800_1_0557715600_2],
    .alternating 1 2 brazilian 0 67]⟩,
  ⟨["America/Scoresbysund"], [-5272, -7200, -3600, 0],
    [.singly [3678571672_1_2009932328_2_0015120000_1_0015717600_3_0015721200_2],
    .alternating 3 2 european 31 115, .singly [31449600_1], .alternating 2 1 european 117 267]⟩,
  ⟨["America/Sitka"], [53927, -32473, -28800, -25200, -32400],
    [.singly [2139438673_1_1036269000_2_1308747527_3_0114822000_2_0743907600_3],
    .alternating 2 3 northAmerican 41 69, .singly [16326000_4_0015732000_2],
    .alternating 4 2 northAmerican 71 302]⟩,
  ⟨["America/St_Johns", "Canada/Newfoundland"], [-12652, -9052, -12600, -9000, -5400],
    [.singly [3700531852_1_0013993200_0_0018061200_1_0016930800_0_0016495200_1_0008550000_0,
    22813200_1_0015721200_0_0015728400_1_0015721200_0_0016333200_1_0015116400_0,
    16333200_1_0015116400_0_0016333200_1_0015116400_0_0016333200_1_0015116400_0,
    16333200_1_0015721200_0_0015728400_1_0015721200_0_0016333200_1_0015116400_0,
    16333200_1_0015116400_0_0016333200_1_0015116400_0_0016333200_1_0015116400_0,
    16333200_1_0015721200_0_0016333200_1_0015116400_0_0016333200_1_0015116400_0,
    13140000_2_0003193148_3_0015116400_2_0016941600_3_0012697200_2_0018752400_3,
    12697200_2_0018752400_3_0012697200_2_0019357200_3_0012092400_2_0019357200_3,
    12697200_2_0018752400_3_0012697200_2_0018752400_3_0106966800_2_0019357200_3,
    12697200_2_0018752400_3_0012697200_2_0018752400_3_0012697200_2_0018752400_3,
    12697200_2_0019357200_3_0012697200_2_0017542800_3], .alternating 2 3 european 18 27,
    .alternating 3 2 chilean 45 53, .singly [18147600_3], .alternating 2 3 egyptian 128 147,
    .alternating 3 2 northAmerican 42 50, .alternating 3 2 egyptian 121 147,
    .singly [13906860_3_0017535600_2_0013914000_4_0018136800_2_0013312800_3],
    .alternating 2 3 northAmerican 81 125, .singly [20566740_2],
    .alternating 3 2 northAmerican 126 302]⟩,
  ⟨["America/Swift_Current"], [-25880, -25200, -21600],
    [.singly [3334461080_1_0398137720_2_0016930800_1_0734922000_2_0114822000_1_0018147600_2,
    14511600_1_0016938000_2_0013302000_1_0018147600_2_0013302000_1_0018147600_2,
    13302000_1_0239504400_2_0015721200_1_0047178000_2_0015721200_1_0015728400_2,
    13302000_1_0018752400_2_0012697200_1_0334458000_2]]⟩,
  ⟨["America/Tegucigalpa"], [-20932, -21600, -18000],
    [.singly [3826158532_1_2085523868_2_0012697200_1_0018752400_2_0012697200_1_0555814800_2,
    7945200_1]]⟩,
  ⟨["America/Thule"], [-16508, -14400, -10800],
    [.singly [3678582908_1_2356478692_2_0015721200_1_0015728400_2_0015721200_1_0016333200_2],
    .alternating 1 2 northAmerican 89 302]⟩,
  ⟨["America/Tijuana", "America/Ensenada", "America/Santa_Isabel", "Mexico/BajaNorte"],
    [-28084, -25200, -28800],
    [.singly [3849922800_1_0063072000_2_0108522000_1_0108342000_2_0011840400_1_0015721200_2,
    333421200_1_0112402800_2_0075344400_1_0024534000_2_0040784400_1_0012610800_2,
    18759600_1_0013302000_2_0018147600_1_0013302000_2_0049593600_1],
    .alternating 2 1 northAmerican 11 24, .singly [491706000_1],
    .alternating 2 1 northAmerican 55 114, .alternating 1 2 northAmerican 102 110,
    .singly [12099600_1], .alternating 2 1 northAmerican 123 302]⟩,
  ⟨["America/Toronto", "America/Montreal", "America/Nassau", "America/Nipigon",
    "America/Thunder_Bay", "Canada/Eastern"], [-19052, -18000, -14400],
    [.singly [2997926252_1_0734665348_2_0016930800_1_0013386600_2_0018055800_1_0016340400_2,
    12690000_1_0019969200_2_0010623600_1_0020826000_2_0010882800_1_0020566800_2,
    10882800_1_0019962000_2_0012092400_1_0019357200_2_0012092400_1_0019357200_2,
    12092400_1_0019357200_2], .alternating 1 2 chilean 22 32, .alternating 1 2 chilean 22 30,
    .alternating 1 2 chilean 70 78,
    .singly [171154800_1_0018147600_2_0013302000_1_0018147600_2_0013302000_1_0018147600_2,
    13302000_1_0018147600_2_0018745200_1_0013309200_2_0018140400_1_0013309200_2],
    .alternating 1 2 european 18 27, .singly [18752400_2_0013302000_1_0018147600_2],
    .alternating 1 2 northAmerican 39 50, .alternating 2 1 egyptian 121 139,
    .alternating 2 1 egyptian 129 148, .alternating 1 2 northAmerican 65 302]⟩,
  ⟨["America/Vancouver", "Canada/Pacific"], [-29548, -28800, -25200],
    [.singly [2650781548_1_1081820852_2_0016930800_1_0734922000_2_0114822000_1_0018147600_2],
    .alternating 1 2 chilean 46 56, .alternating 1 2 european 18 27,
    .singly [18752400_2_0013302000_1_0018147600_2], .alternating 1 2 chilean 46 56,
    .alternating 1 2 egyptian 120 139, .alternating 2 1 egyptian 129 148,
    .alternating 1 2 northAmerican 65 302]⟩,
  ⟨["America/Whitehorse", "Canada/Yukon"], [-32412, -32400, -28800, -25200],
    [.singly [3175664412_1_0556941588_2_0016930800_1_0018147600_2_0013813200_1_0702961200_2,
    114822000_1_0617497200_3_0016329600_1_0010281600_2_0446950800_3],
    .alternating 2 3 northAmerican 63 143]⟩,
  ⟨["America/Winnipeg", "America/Rainy_River", "Canada/Central"], [-23316, -21600, -18000],
    [.singly [2762404116_1_0907889484_2_0012697200_1_0049604400_2_0016930800_1_0585450000_2,
    11487600_1_0137984400_2_0114822000_1_0019357200_2_0013302000_1_0016938000_2,
    13302000_1_0018147600_2_0013302000_1_0018147600_2_0013302000_1_0018838800_2,
    13129200_1_0018234000_2], .alternating 1 2 european 18 27,
    .singly [18752400_2_0013302000_1_0018147600_2_0013302000_1_0018147600_2_0013302000_1,
    18147600_2_0015721200_1_0015728400_2_0013302000_1_0081651600_2_0012697200_1, 81651600_2],
    .alternating 1 2 tasmanian 191 211, .singly [16329600_1_0015120000_2],
    .alternating 1 2 tasmanian 247 258,
    .singly [15120000_2_0016329600_1_0015724800_2_0015724800_1_0015724800_2_0015724800_1,
    15724800_2_0015724800_1_0013910400_2_0017539200_1_0013910400_2_0018144000_1,
    13305600_2_0018144000_1_0013305600_2_0018144000_1_0013910400_2_0017539200_1,
    13910400_2_0017539200_1_0013910400_2_0018144000_1_0013305600_2_0018144000_1,
    13305600_2_0018144000_1_0013910400_2_0017539200_1_0013910400_2_0017539200_1,
    13910400_2_0017539200_1_0013910400_2_0018144000_1_0013305600_2_0018144000_1,
    13305600_2_0018144000_1_0013910400_2_0017539200_1_0013910400_2_0017539200_1,
    13910400_2_0018144000_1_0013305600_2_0018144000_1_0013305600_2],
    .alternating 1 2 northAmerican 115 302]⟩,
  ⟨["America/Yakutat"], [52865, -33535, -32400, -28800],
    [.singly [2139438673_1_1036270062_2_1308750065_3_0114822000_2_0743907600_3],
    .alternating 2 3 northAmerican 41 302]⟩]

def antarctica : List Row := [
  ⟨["Antarctica/Casey"], [0, 28800, 39600],
    [.singly [5333126400_1_1287338400_2_0011912400_1_0052023600_2_0010105200_1_0147222000_2,
    43635600_1_0018154800_2_0013896000_1_0017377200_2_0013467600_1_0018144060_2,
    13899540_1_0017550060_2_0013899540_1_0017550060_2_0013651140_1]]⟩,
  ⟨["Antarctica/Davis"], [0, 25200, 18000],
    [.singly [4955472000_1_0246128400_0_0134204400_1_1284663600_2_0012445200_1_0051490800_2,
    10112400_1]]⟩,
  ⟨["Antarctica/Macquarie"], [0, 36000, 39600],
    [.singly [3150403200_1_0533750400_2_0015120000_1_0063669600_0_0914666400_1_0615916800_2],
    .alternating 1 2 tasmanian 0 84, .singly [47174400_1], .alternating 2 1 tasmanian 87 264]⟩,
  ⟨["Antarctica/Mawson"], [0, 21600, 18000], [.singly [4863456000_1_1757016000_2]]⟩,
  ⟨["Antarctica/Palmer"], [0, -10800, -14400, -7200],
    [.singly [5206896000_1_0005108400_2_0019702800_1_0011833200_2_0019702800_1_0014598000_2,
    15728400_1_0016326000_2_0015728400_1_0015721200_2_0015728400_1_0135730800_3,
    8463600_1_0252464400_2_0014000400_1], .alternating 2 1 chilean 28 94]⟩,
  ⟨["Antarctica/Rothera"], [0, -10800], [.singly [5582908800_1]]⟩,
  ⟨["Antarctica/Troll"], [0, 7200], [.singly [6476547600_1], .alternating 0 1 european 78 267]⟩,
  ⟨["Antarctica/Vostok"], [0, 25200, 18000],
    [.singly [4984588800_1_1140109200_0_0023612400_1_0919191600_2]]⟩]

def asia : List Row := [
  ⟨["Asia/Almaty"], [18468, 18000, 21600, 25200],
    [.singly [3923491932_1_0193622868_2_1602457200_3], .alternating 2 3 soviet 0 19,
    .singly [31453200_1_0009676800_2_0006044400_3], .alternating 2 3 european 52 77,
    .singly [610063200_1]]⟩,
  ⟨["Asia/Amman"], [8624, 7200, 10800],
    [.singly [4133885776_1_1338942224_2_0010105200_1_0018320400_2_0013215600_1_0018320400_2,
    13215600_1_0018406800_2_0015894000_1_0015642000_2_0013215600_1_0018234000_2,
    13215600_1_0205203600_2_0015807600_1_0015987600_2_0015721200_1_0015728400_2,
    15721200_1_0015728400_2_0016326000_1_0018406800_2_0013042800_1_0017542800_2,
    13906800_1_0016765200_2_0014079600_1_0016938000_2_0015116400_1_0015728400_2,
    15721200_1_0015728400_2_0014511600_1_0017542800_2_0013910400_1_0017539200_2,
    14515200_1_0016934400_2_0014515200_1_0016934400_2_0014515200_1_0024710400_2,
    7344000_1_0016243200_2_0015811200_1_0015638400_2_0015811200_1_0015724800_2,
    15724800_1_0015724800_2_0018144000_1_0013305600_2_0017539200_1_0014515200_2,
    15724800_1_0015724800_2], .alternating 1 2 european 252 264,
    .singly [54428400_1_0008470800_2_0018748800_1_0012700800_2],
    .alternating 1 2 northAmerican 14 27, .singly [10281600_2]]⟩,
  ⟨["Asia/Anadyr"], [42596, 43200, 46800, 50400, 39600],
    [.singly [3923467804_1_0193621796_2_1602457200_3_0015807600_2_0031539600_1],
    .alternating 2 1 soviet 3 19, .singly [31453200_4_0009676800_1_0006044400_2],
    .alternating 1 2 european 52 87, .singly [32058000_4_0012700800_1]]⟩,
  ⟨["Asia/Aqtau"], [12064, 14400, 18000, 21600],
    [.singly [3923498336_1_0193620064_2_1618268400_3_0031532400_2], .alternating 3 2 soviet 3 19,
    .singly [31453200_1_0009676800_2_0006044400_3_0015724800_2_0015724800_3_0015724800_2,
    15724800_3_0015724800_1_0015728400_2], .alternating 1 2 european 58 76]⟩,
  ⟨["Asia/Aqtobe"], [13720, 14400, 18000, 21600],
    [.singly [3923496680_1_0193621720_2_1602457200_3_0047343600_2], .alternating 3 2 soviet 3 19,
    .singly [31453200_1_0009676800_2_0006044400_3], .alternating 2 3 european 52 77]⟩,
  ⟨["Asia/Ashgabat", "Asia/Ashkhabad"], [14012, 14400, 18000, 21600],
    [.singly [3923496388_1_0193622012_2_1602457200_3], .alternating 2 3 soviet 0 19,
    .singly [31453200_1_0009676800_2]]⟩,
  ⟨["Asia/Atyrau"], [12464, 10800, 18000, 21600, 14400],
    [.singly [3923497936_1_0193624064_2_1618264800_3_0031532400_2], .alternating 3 2 soviet 3 19,
    .singly [31453200_4_0009676800_2_0006044400_3], .alternating 2 3 european 52 65,
    .singly [32058000_4], .alternating 2 4 european 257 266]⟩,
  ⟨["Asia/Baghdad"], [10660, 10656, 10800, 14400],
    [.singly [2840130140_1_0883526404_2_2030054256_3_0013215600_2_0015642000_3_0015894000_2,
    15814800_3_0015807600_2_0015728400_3_0015642000_2], .alternating 3 2 soviet 9 19,
    .singly [15818400_3_0015811200_2_0015811200_3_0015811200_2_0015724800_3_0015811200_2,
    15724800_3_0015811200_2_0015724800_3_0015811200_2_0015811200_3_0015811200_2,
    15724800_3_0015811200_2_0015724800_3_0015811200_2_0015724800_3_0015811200_2,
    15811200_3_0015811200_2_0015724800_3_0015811200_2_0015724800_3_0015811200_2,
    15724800_3_0015811200_2_0015811200_3_0015811200_2_0015724800_3_0015811200_2,
    15724800_3_0015811200_2_0015724800_3_0015811200_2]]⟩,
  ⟨["Asia/Baku"], [11964, 10800, 14400, 18000],
    [.singly [3923498436_1_1036023564_2_0760057200_3], .alternating 2 3 soviet 0 19,
    .singly [31453200_1_0015724800_2_0126410400_3_0018144000_2_0013302000_3],
    .alternating 2 3 european 230 267]⟩,
  ⟨["Asia/Bangkok", "Asia/Phnom_Penh", "Asia/Vientiane", "Indian/Christmas"], [24124, 25200],
    [.singly [3794577476_1]]⟩,
  ⟨["Asia/Barnaul"], [20100, 21600, 25200, 28800],
    [.singly [3784818300_1_0332292900_2_1602457200_3], .alternating 2 3 soviet 0 19,
    .singly [31453200_1_0009676800_2_0006044400_3_0015724800_2_0015724800_3_0015724800_2,
    15724800_3_0015724800_2_0015724800_3_0005432400_2_0010296000_1],
    .alternating 2 1 european 59 90, .singly [113094000_1_0044758800_2]]⟩,
  ⟨["Asia/Beirut"], [8520, 7200, 10800],
    [.singly [2524513080_1_1269735720_2_0018226800_1_0013827600_2_0015807600_1_0015037200_2,
    16930800_1_0016938000_2_0012697200_1_1061082000_2_0013215600_1_0018320400_2,
    13215600_1_0018320400_2_0013215600_1_0018406800_2_0013215600_1_0018320400_2,
    13215600_1_0338432400_2_0008722800_1_0018320400_2_0013215600_1_0018320400_2,
    13215600_1_0018320400_2_0013215600_1_0018406800_2_0013215600_1_0018320400_2,
    13215600_1_0018234000_2_0013215600_1_0176259600_2_0014511600_1_0017024400_2,
    14511600_1_0017024400_2_0014511600_1_0017024400_2_0014511600_1_0019789200_2,
    11833200_1_0017802000_2_0013734000_1_0017024400_2_0014511600_1_0017024400_2,
    14511600_1_0017110800_2_0013474800_1_0015123600_2_0015721200_1_0015728400_2,
    15721200_1_0015728400_2], .alternating 1 2 palestinian 30 38,
    .alternating 1 2 palestinian 282 292, .alternating 1 2 palestinian 270 293,
    .singly [13309200_2], .alternating 1 2 palestinian 272 293,
    .alternating 2 1 palestinian 281 292, .alternating 1 2 palestinian 270 293,
    .singly [13309200_2], .alternating 1 2 palestinian 272 293,
    .alternating 2 1 palestinian 281 292, .alternating 1 2 palestinian 270 293,
    .singly [13309200_2], .alternating 1 2 palestinian 272 293,
    .alternating 2 1 palestinian 281 292, .alternating 1 2 palestinian 270 293]⟩,
  ⟨["Asia/Bishkek"], [17904, 18000, 21600, 25200],
    [.singly [3923492496_1_0193622304_2_1602457200_3], .alternating 2 3 soviet 0 19,
    .singly [28944000_1_0019436400_2_0014511600_1_0016938000_2_0014511600_1_0016938000_2,
    14511600_1_0016938000_2_0014511600_1_0016938000_2_0015116400_1_0015737400_2, 18140400_1],
    .alternating 2 1 palestinian 85 100]⟩,
  ⟨["Asia/Chita"], [27232, 28800, 32400, 36000],
    [.singly [3785243168_1_0331860832_2_1602457200_3], .alternating 2 3 soviet 0 19,
    .singly [31453200_1_0009676800_2_0006044400_3], .alternating 2 3 european 52 90,
    .singly [113094000_1_0044762400_2]]⟩,
  ⟨["Asia/Colombo"], [19164, 19172, 19800, 21600, 23400],
    [.singly [2524502436_1_0820454392_2_1136418572_3_0020647800_4_0098587800_2_1597014000_4,
    13303800_3_0298773000_2]]⟩,
  ⟨["Asia/Damascus"], [8712, 7200, 10800],
    [.singly [3786730488_1_0009339912_2_0014511600_1_0016938000_2_0014511600_1_0016938000_2,
    14511600_1_0016938000_2_0015116400_1_1216861200_2_0013388400_1_0018320400_2,
    13129200_1_0018493200_2_0013215600_1_0018320400_2_0013129200_1_0017802000_2,
    13820400_1_0018320400_2_0013215600_1_0018406800_2_0013215600_1_0018320400_2,
    13215600_1_0018320400_2_0013215600_1_0018320400_2_0013215600_1_0018406800_2,
    13215600_1_0018320400_2_0013215600_1_0018320400_2_0013215600_1_0018320400_2,
    13215600_1_0018406800_2_0013215600_1_0018320400_2_0010623600_1_0020912400_2,
    10623600_1_0145242000_2_0015116400_1_0016506000_2_0015116400_1_0043462800_2,
    20300400_1_0012358800_2_0021078000_1_0011754000_2_0019868400_1_0013050000_2,
    15894000_1_0015728400_2_0015721200_1_0015807600_2_0015807600_1_0016419600_2,
    15202800_1_0015210000_2_0015807600_1_0016246800_2_0015807600_1_0015728400_2,
    15807600_1_0015814800_2_0015807600_1_0015642000_2_0015894000_1_0015555600_2,
    15980400_1_0015728400_2_0015807600_1_0015814800_2_0015807600_1_0015728400_2,
    15807600_1_0015728400_2_0015807600_1_0015728400_2_0015807600_1_0015814800_2,
    15807600_1_0015728400_2_0015807600_1_0015728400_2_0015030000_1_0016333200_2,
    18745200_1_0013309200_2_0018226800_1_0012618000_2], .alternating 1 2 chilean 232 245,
    .alternating 2 1 chilean 243 255, .singly [12704400_2]]⟩,
  ⟨["Asia/Dhaka", "Asia/Dacca"], [21700, 21200, 23400, 19800, 21600, 25200],
    [.singly [2840119100_1_1632960500_2_0019524200_3_0009421200_2_0286498800_4_1821569400_5,
    16848000_4]]⟩,
  ⟨["Asia/Dili"], [30140, 28800, 32400],
    [.singly [3534249600_1_0951260400_2_1079049600_1_0769222800_2]]⟩,
  ⟨["Asia/Dubai", "Asia/Muscat", "Indian/Mahe", "Indian/Reunion"], [13272, 14400],
    [.singly [3786725928_1]]⟩,
  ⟨["Asia/Dushanbe"], [16512, 18000, 21600, 25200],
    [.singly [3923493888_1_0193620912_2_1602457200_3], .alternating 2 3 soviet 0 19,
    .singly [29725200_1]]⟩,
  ⟨["Asia/Famagusta"], [8148, 7200, 10800],
    [.singly [3845742252_1_1685492148_2_0015721200_1_0018666000_2_0012870000_1_0015037200_2,
    15116400_1_0016333200_2_0015807600_1_0015642000_2_0015721200_1_0016333200_2, 15116400_1],
    .alternating 2 1 northAmerican 38 50, .alternating 2 1 northAmerican 38 48,
    .alternating 2 1 egyptian 129 137,
    .singly [16333200_2_0015721200_1_0015728400_2_0015721200_1_0015728400_2_0018154800_1],
    .alternating 2 1 european 177 212, .singly [50198400_1], .alternating 2 1 european 103 267]⟩,
  ⟨["Asia/Gaza"], [8272, 7200, 10800],
    [.singly [3179252528_1_1251771472_2_0010540800_1_0004060800_2_0061689600_1_0013046400_2,
    18489600_1_0013132800_2_0018489600_1_0014342400_2_0017193600_1_0014342400_2,
    17193600_1_0332028000_2_0012438000_1_0018320400_2_0013215600_1_0018324000_2,
    13136400_1_0018486000_2_0013136400_1_0018399600_2_0013136400_1_0018399600_2,
    13136400_1_0018399600_2_0013136400_1_0018486000_2_0013136400_1_0018399600_2,
    13136400_1_0018399600_2_0013222800_1_0018313200_2_0003016800_1_0223693200_2,
    8463600_1_0016333200_2_0011487600_1_0155437200_2_0003628800_1_0114912000_2],
    .alternating 1 2 palestinian 0 48,
    .singly [13302000_1_0018147600_2_0013910400_1_0017625660_2_0011833140_1_0020134860_2,
    10537140_1_0020912400_2], .alternating 1 2 palestinian 58 293]⟩,
  ⟨["Asia/Hebron"], [8423, 7200, 10800],
    [.singly [3179252377_1_1251771623_2_0010540800_1_0004060800_2_0061689600_1_0013046400_2,
    18489600_1_0013132800_2_0018489600_1_0014342400_2_0017193600_1_0014342400_2,
    17193600_1_0332028000_2_0012438000_1_0018320400_2_0013215600_1_0018324000_2,
    13136400_1_0018486000_2_0013136400_1_0018399600_2_0013136400_1_0018399600_2,
    13136400_1_0018399600_2_0013136400_1_0018486000_2_0013136400_1_0018399600_2,
    13136400_1_0018399600_2_0013222800_1_0018313200_2_0003016800_1_0223693200_2,
    8463600_1_0016333200_2_0011487600_1_0155437200_2_0003628800_1_0114912000_2],
    .alternating 1 2 palestinian 0 293]⟩,
  ⟨["Asia/Ho_Chi_Minh", "Asia/Saigon"], [25590, 25200, 28800, 32400],
    [.singly [3513084810_1_0999471990_2_0069462000_3_0014774400_1_0049773600_2_0260323200_1,
    142124400_2_0487468800_1]]⟩,
  ⟨["Asia/Hong_Kong", "Hongkong"], [27402, 28800, 32400, 30600],
    [.singly [3307971600_1_1155780000_2_0009331200_3_0007331400_2_0123039000_1_0013302000_2,
    19366200_1_0011491200_2_0019958400_1_0013305600_2_0015724800_1_0013305600_2,
    18144000_1_0013305600_2_0018144000_1_0013305600_2_0018144000_1_0013910400_2,
    18144000_1_0013305600_2_0018140400_1_0012099600_2_0019350000_1_0012099600_2,
    19954800_1_0011494800_2_0019954800_1_0012099600_2_0019350000_1_0012099600_2,
    19350000_1_0012099600_2_0019350000_1_0012099600_2_0019954800_1_0011494800_2,
    19954800_1_0011494800_2_0019954800_1_0012099600_2_0019350000_1_0012099600_2,
    19350000_1_0014518800_2], .alternating 1 2 northAmerican 41 50,
    .alternating 2 1 northAmerican 40 48,
    .singly [6051600_2_0025398000_1_0015728400_2_0015721200_1_0015728400_2_0015721200_1,
    81046800_2_0013906800_1]]⟩,
  ⟨["Asia/Hovd"], [21996, 21600, 25200, 28800],
    [.singly [3331734804_1_2285366796_2_0165538800_3_0015807600_2_0015814800_3_0015721200_2,
    15728400_3_0015721200_2], .alternating 3 2 northAmerican 36 48,
    .alternating 3 2 egyptian 129 137,
    .singly [16333200_3_0015721200_2_0015728400_3_0015721200_2_0015728400_3_0015721200_2,
    81572400_3_0013302000_2], .alternating 3 2 egyptian 129 139,
    .singly [267930000_3_0015714000_2_0015735600_3_0015714000_2]]⟩,
  ⟨["Asia/Irkutsk"], [25025, 25200, 28800, 32400],
    [.singly [3788787775_1_0328319825_2_1602457200_3], .alternating 2 3 soviet 0 19,
    .singly [31453200_1_0009676800_2_0006044400_3], .alternating 2 3 european 52 90,
    .singly [113094000_2]]⟩,
  ⟨["Asia/Jakarta"], [25632, 26400, 27000, 32400, 28800, 25200],
    [.singly [3912943200_1_0278812800_2_0296265000_3_0110586600_2_0082171800_4_0063070200_2,
    431397000_5]]⟩,
  ⟨["Asia/Jayapura"], [33768, 32400, 34200], [.singly [4191748632_1_0373422168_2_0610068600_1]]⟩,
  ⟨["Asia/Jerusalem", "Asia/Tel_Aviv", "Israel"], [8454, 8440, 7200, 10800, 14400],
    [.singly [2524513146_1_1199145614_2_0707365240_3_0010540800_2_0004060800_3_0061689600_2,
    13046400_3_0018489600_2_0013132800_3_0018489600_2_0014342400_3_0017193600_2,
    14342400_3_0017193600_2_0049161600_4_0008726400_3_0005270400_2_0015638400_3,
    15897600_2_0014342400_3_0013132800_2_0017107200_3_0019353600_2_0013910400_3,
    15724800_2_0015120000_3_0013305600_2_0023587200_3_0007862400_2_0023587200_3,
    7862400_2_0022982400_3_0010281600_2_0018144000_3_0012700800_2_0529797600_3,
    8463600_2_0016333200_3_0011487600_2_0155437200_3_0003628800_2_0114912000_3],
    .alternating 2 3 israeli 0 231]⟩,
  ⟨["Asia/Kabul"], [16608, 14400, 16200], [.singly [2840124192_1_1735605408_2]]⟩,
  ⟨["Asia/Kamchatka"], [38076, 39600, 43200, 46800],
    [.singly [3876902724_1_0240190476_2_1602457200_3], .alternating 2 3 soviet 0 19,
    .singly [31453200_1_0009676800_2_0006044400_3], .alternating 2 3 european 52 87,
    .singly [32058000_1_0012700800_2]]⟩,
  ⟨["Asia/Karachi"], [16092, 19800, 23400, 18000, 21600],
    [.singly [3376495908_1_1125529092_2_0098492400_1_0188010000_3_1594254600_4_0015721200_3,
    178419600_4_0013215600_3_0014259600_4_0017276400_3]]⟩,
  ⟨["Asia/Kathmandu", "Asia/Katmandu"], [20476, 19800, 20700],
    [.singly [3786718724_1_2082845476_2]]⟩,
  ⟨["Asia/Khandyga"], [32533, 28800, 32400, 36000, 39600],
    [.singly [3785237867_1_0331866133_2_1602457200_3], .alternating 2 3 soviet 0 19,
    .singly [31453200_1_0009676800_2_0006044400_3], .alternating 2 3 european 52 75,
    .singly [5781600_3_0007520400_4], .alternating 3 4 european 244 258,
    .singly [14677200_3_0098420400_2]]⟩,
  ⟨["Asia/Kolkata", "Asia/Calcutta"], [21208, 21200, 19270, 19800, 23400],
    [.singly [1719425192_1_0489542408_2_1135989130_3_1128124270_4_0019522800_3_0009421200_4,
    98492400_3]]⟩,
  ⟨["Asia/Krasnoyarsk"], [22286, 21600, 25200, 28800],
    [.singly [3787148914_1_0329962286_2_1602457200_3], .alternating 2 3 soviet 0 19,
    .singly [31453200_1_0009676800_2_0006044400_3], .alternating 2 3 european 52 90,
    .singly [113094000_2]]⟩,
  ⟨["Asia/Kuching", "Asia/Brunei"], [26480, 27000, 28800, 30000, 32400],
    [.singly [3981199120_1_0215826680_2_0085188600_3_0007861200_2_0023761200_3_0007861200_2,
    23674800_3_0007861200_2_0023674800_3_0007861200_2_0023674800_3_0007861200_2,
    23761200_3_0007861200_2_0023674800_3_0007861200_2_0005530800_4_0112662000_2]]⟩,
  ⟨["Asia/Macau", "Asia/Macao"], [27250, 28800, 32400, 36000],
    [.singly [3307969550_1_1172183650_2_0011228400_3_0017362800_2_0014173200_3_0013215600_2,
    63165600_1_0018316800_2_0013219200_1_0017366400_2_0019440000_1_0013305600_2,
    15724800_1_0013219200_2_0018144000_1_0013305600_2_0018144000_1_0013305600_2,
    18230400_1_0013824000_2_0018144000_1_0013305600_2_0018144000_1_0012096000_2,
    19353600_1_0012096000_2_0019958400_1_0011491200_2_0019971000_1_0012099600_2,
    19350000_1_0012099600_2_0019350000_1_0012099600_2_0019350000_1_0012099600_2,
    19954800_1_0011494800_2_0019954800_1_0011494800_2_0019954800_1_0012099600_2,
    19350000_1_0012099600_2_0019350000_1_0014518800_2_0015717600_1_0015732000_2,
    15717600_1_0015732000_2_0016326000_1], .alternating 2 1 northAmerican 36 48,
    .singly [6051600_2_0025398000_1_0015728400_2_0015721200_1_0015728400_2_0015721200_1,
    81046800_2_0013906800_1]]⟩,
  ⟨["Asia/Magadan"], [36192, 36000, 39600, 43200],
    [.singly [3923474208_1_0193622592_2_1602457200_3], .alternating 2 3 soviet 0 19,
    .singly [31453200_1_0009676800_2_0006044400_3], .alternating 2 3 european 52 90,
    .singly [113094000_1_0047181600_2]]⟩,
  ⟨["Asia/Makassar", "Asia/Ujung_Pandang"], [28656, 28800, 32400],
    [.singly [4191753744_1_0292636656_2_0114217200_1]]⟩,
  ⟨["Asia/Manila"], [-57368, 29032, 28800, 32400],
    [.singly [1420041368_1_1725537832_2_1172404800_3_0006562800_2_0155091600_3_0124930800_2,
    263869200_3_0004662000_2_0719888400_3_0015375600_2_0399517200_3_0005958000_2]]⟩,
  ⟨["Asia/Nicosia", "Europe/Nicosia"], [8008, 7200, 10800],
    [.singly [3845742392_1_1685492008_2_0015721200_1_0018666000_2_0012870000_1_0015037200_2,
    15116400_1_0016333200_2_0015807600_1_0015642000_2_0015721200_1_0016333200_2, 15116400_1],
    .alternating 2 1 northAmerican 38 50, .alternating 2 1 northAmerican 38 48,
    .alternating 2 1 egyptian 129 137,
    .singly [16333200_2_0015721200_1_0015728400_2_0015721200_1_0015728400_2_0018154800_1],
    .alternating 2 1 european 65 267]⟩,
  ⟨["Asia/Novokuznetsk"], [20928, 21600, 25200, 28800],
    [.singly [3923403072_1_0193708128_2_1602457200_3], .alternating 2 3 soviet 0 19,
    .singly [31453200_1_0009676800_2_0006044400_3], .alternating 2 3 european 52 87,
    .singly [32058000_1_0012700800_2]]⟩,
  ⟨["Asia/Novosibirsk"], [19900, 21600, 25200, 28800],
    [.singly [3785185700_1_0331925500_2_1602457200_3], .alternating 2 3 soviet 0 19,
    .singly [31453200_1_0009676800_2_0006044400_3_0015724800_2_0015724800_3_0004827600_2,
    10900800_1], .alternating 2 1 european 55 90, .singly [113094000_1_0055040400_2]]⟩,
  ⟨["Asia/Omsk"], [17610, 18000, 21600, 25200],
    [.singly [3782574390_1_0334540410_2_1602457200_3], .alternating 2 3 soviet 0 19,
    .singly [31453200_1_0009676800_2_0006044400_3], .alternating 2 3 european 52 90,
    .singly [113094000_2]]⟩,
  ⟨["Asia/Oral"], [12324, 10800, 18000, 21600, 14400],
    [.singly [3923498076_1_0193623924_2_1602453600_3_0047343600_2], .alternating 3 2 soviet 3 15,
    .singly [31453200_4_0015724800_2_0016329600_4_0015724800_2_0015724800_4_0009676800_2,
    21772800_4], .alternating 2 4 european 53 76]⟩,
  ⟨["Asia/Pontianak"], [26240, 27000, 32400, 28800, 25200],
    [.singly [4191756160_1_0291685640_2_0115165800_1_0082171800_3_0063070200_1_0431397000_3,
    757380600_4]]⟩,
  ⟨["Asia/Pyongyang"], [30180, 30600, 32400],
    [.singly [3415880220_1_0118367580_2_3269979000_1_0085881600_2]]⟩,
  ⟨["Asia/Qatar", "Asia/Bahrain"], [12368, 14400, 10800], [.singly [3786726832_1_1654125968_2]]⟩,
  ⟨["Asia/Qostanay"], [15268, 14400, 18000, 21600],
    [.singly [3923495132_1_0193623268_2_1602457200_3_0047343600_2], .alternating 3 2 soviet 3 19,
    .singly [31453200_1_0009676800_2_0006044400_3], .alternating 2 3 european 52 76,
    .singly [628808400_2]]⟩,
  ⟨["Asia/Qyzylorda"], [15712, 14400, 18000, 21600],
    [.singly [3923494688_1_0193623712_2_1602457200_3_0047343600_2], .alternating 3 2 soviet 3 19,
    .singly [41126400_3_0021772800_2], .alternating 3 2 european 53 76, .singly [464907600_2]]⟩,
  ⟨["Asia/Riyadh", "Antarctica/Syowa", "Asia/Aden", "Asia/Kuwait"], [11212, 10800],
    [.singly [4645025588_1]]⟩,
  ⟨["Asia/Sakhalin"], [34248, 32400, 39600, 43200, 36000],
    [.singly [3333623352_1_1262478648_2_1123452000_3], .alternating 2 3 soviet 0 19,
    .singly [31453200_4_0009676800_2_0006044400_3], .alternating 2 3 european 52 61,
    .singly [31453200_4], .alternating 2 4 european 231 258, .singly [113094000_4_0044758800_2]]⟩,
  ⟨["Asia/Samarkand"], [16073, 14400, 18000, 21600],
    [.singly [3923494327_1_0193624073_2_1602457200_3_0047343600_2], .alternating 3 2 soviet 3 19,
    .singly [15724800_3_0015724800_2]]⟩,
  ⟨["Asia/Seoul", "ROK"], [30472, 30600, 32400, 36000, 34200],
    [.singly [3415879928_1_0118367872_2_1149204600_3_0008982000_2_0017456400_3_0013906800_2,
    17456400_3_0013993200_2_0020566800_3_0010882800_2_0079837200_1_0035425800_4,
    10969200_1_0021949200_4_0011487600_1_0018752400_4_0012092400_1_0019357200_4,
    12092400_1_0019357200_4_0012092400_1_0019357200_4_0012092400_1_0028170000_2,
    812511000_3_0013305600_2_0018144000_3_0013305600_2]]⟩,
  ⟨["Asia/Shanghai", "Asia/Chongqing", "Asia/Chungking", "Asia/Harbin", "PRC"],
    [29143, 28800, 32400],
    [.singly [3187180457_1_0576806743_2_0014770800_1_0652237200_2_0011574000_1_0013222800_2,
    20041200_1_0007779600_2_0113180400_1_0022035600_2_0012006000_1_0016938000_2,
    17276400_1_0015728400_2_0013215600_1_0018320400_2_0002329200_1_1165546800_2,
    11487600_1_0018147600_2_0013302000_1], .alternating 2 1 chilean 67 75]⟩,
  ⟨["Asia/Singapore", "Asia/Kuala_Lumpur", "Singapore"], [24925, 25200, 26400, 27000, 32400, 28800],
    [.singly [3326461475_1_0870566125_2_0273454800_3_0014514600_4_0112660200_3_1145667600_5]]⟩,
  ⟨["Asia/Srednekolymsk"], [36892, 36000, 39600, 43200],
    [.singly [3923473508_1_0193623292_2_1602457200_3], .alternating 2 3 soviet 0 19,
    .singly [31453200_1_0009676800_2_0006044400_3], .alternating 2 3 european 52 90,
    .singly [113094000_2]]⟩,
  ⟨["Asia/Taipei", "ROC"], [29160, 28800, 32400],
    [.singly [3029414040_1_1317427560_2_0251596800_1_0020390400_2_0012006000_1_0016938000_2,
    17276400_1_0015728400_2_0013215600_1_0018320400_2_0013215600_1_0018320400_2,
    13215600_1_0018320400_2_0013215600_1_0013136400_2_0021164400_1_0013050000_2,
    18486000_1_0013050000_2_0018486000_1_0013050000_2_0015807600_1_0015814800_2,
    15807600_1_0015728400_2_0015807600_1_0015728400_2_0015807600_1_0015728400_2,
    15807600_1_0021085200_2_0010537200_1_0020998800_2_0010537200_1_0394419600_2,
    15807600_1_0015728400_2_0015807600_1_0118285200_2_0007945200_1]]⟩,
  ⟨["Asia/Tashkent"], [16631, 18000, 21600, 25200],
    [.singly [3923493769_1_0193621031_2_1602457200_3], .alternating 2 3 soviet 0 19,
    .singly [31453200_1]]⟩,
  ⟨["Asia/Tbilisi"], [10751, 10800, 14400, 18000],
    [.singly [3923499649_1_1036022351_2_0760057200_3], .alternating 2 3 soviet 0 19,
    .singly [31453200_1_0015717600_2_0015721200_1_0015728400_2_0015721200_1_0015728400_2,
    31446000_3_0015721200_2_0016333200_3_0049590000_2], .alternating 3 2 palestinian 279 292,
    .singly [7858800_2_0010900800_1_0012700800_2]]⟩,
  ⟨["Asia/Tehran", "Iran"], [12344, 12600, 16200, 14400, 18000],
    [.singly [4274195656_1_1318287344_2_0018403200_3_0013393800_4_0011491200_3_0008467200_1,
    17022600_2_0009932400_1_0015901200_2_0016066800_1_0334717200_2_0012265200_1,
    15728400_2_0015894000_1_0015642000_2_0015894000_1_0015642000_2_0015894000_1,
    15642000_2_0015894000_1_0015642000_2_0015894000_1_0015728400_2_0015894000_1,
    15642000_2_0015894000_1_0015642000_2_0015894000_1_0015642000_2_0015894000_1,
    15728400_2_0015894000_1_0015642000_2_0015894000_1_0015642000_2_0015894000_1,
    15642000_2_0015894000_1_0015728400_2_0015894000_1_0078714000_2_0015894000_1,
    15728400_2_0015894000_1_0015642000_2_0015894000_1_0015642000_2_0015894000_1,
    15642000_2_0015894000_1_0015728400_2_0015894000_1_0015642000_2_0015894000_1,
    15642000_2_0015894000_1_0015642000_2_0015894000_1_0015728400_2_0015894000_1,
    15642000_2_0015894000_1_0015642000_2_0015894000_1_0015642000_2_0015894000_1,
    15728400_2_0015894000_1_0015642000_2_0015894000_1]]⟩,
  ⟨["Asia/Thimphu", "Asia/Thimbu"], [21516, 19800, 21600], [.singly [4658320884_1_1266366516_2]]⟩,
  ⟨["Asia/Tokyo", "Japan"], [33539, 32400, 36000],
    [.singly [2776950000_1_1903910400_2_0011491200_1_0017539200_2_0013910400_1_0020563200_2,
    10886400_1_0020563200_2_0010886400_1]]⟩,
  ⟨["Asia/Tomsk"], [20391, 21600, 25200, 28800],
    [.singly [3785854809_1_0331256391_2_1602457200_3], .alternating 2 3 soviet 0 19,
    .singly [31453200_1_0009676800_2_0006044400_3], .alternating 2 3 european 52 72,
    .singly [2678400_2_0015469200_1], .alternating 2 1 european 241 258,
    .singly [113094000_1_0050202000_2]]⟩,
  ⟨["Asia/Ulaanbaatar", "Asia/Choibalsan", "Asia/Ulan_Bator"], [25652, 25200, 28800, 32400],
    [.singly [3331731148_1_2285366852_2_0165538800_3_0015807600_2_0015814800_3_0015721200_2,
    15728400_3_0015721200_2], .alternating 3 2 northAmerican 36 48,
    .alternating 3 2 egyptian 129 137,
    .singly [16333200_3_0015721200_2_0015728400_3_0015721200_2_0015728400_3_0015721200_2,
    81572400_3_0013302000_2], .alternating 3 2 egyptian 129 139,
    .singly [267930000_3_0015714000_2_0015735600_3_0015714000_2]]⟩,
  ⟨["Asia/Urumqi", "Asia/Kashgar"], [21020, 21600], [.singly [4039178980_1]]⟩,
  ⟨["Asia/Ust-Nera"], [34374, 28800, 32400, 43200, 39600, 36000],
    [.singly [3785236026_1_0331867974_2_1602457200_3_0015800400_4], .alternating 3 4 soviet 1 19,
    .singly [31453200_5_0009676800_4_0006044400_3], .alternating 4 3 european 52 90,
    .singly [14677200_4_0098420400_5]]⟩,
  ⟨["Asia/Vladivostok"], [31651, 32400, 36000, 39600],
    [.singly [3877341149_1_0239759251_2_1602457200_3], .alternating 2 3 soviet 0 19,
    .singly [31453200_1_0009676800_2_0006044400_3], .alternating 2 3 european 52 90,
    .singly [113094000_2]]⟩,
  ⟨["Asia/Yakutsk"], [31138, 28800, 32400, 36000],
    [.singly [3785239262_1_0331864738_2_1602457200_3], .alternating 2 3 soviet 0 19,
    .singly [31453200_1_0009676800_2_0006044400_3], .alternating 2 3 european 52 90,
    .singly [113094000_2]]⟩,
  ⟨["Asia/Yangon", "Asia/Rangoon", "Indian/Cocos"], [23087, 23400, 32400],
    [.singly [3786716113_1_0704678087_2_0094858200_1]]⟩,
  ⟨["Asia/Yekaterinburg"], [14553, 13505, 14400, 18000, 21600],
    [.singly [3676391847_1_0095660248_2_0345066305_3_1602457200_4], .alternating 3 4 soviet 0 19,
    .singly [31453200_2_0009676800_3_0006044400_4], .alternating 3 4 european 52 90,
    .singly [113094000_3]]⟩,
  ⟨["Asia/Yerevan"], [10680, 10800, 14400, 18000],
    [.singly [3923499720_1_1036022280_2_0760057200_3], .alternating 2 3 soviet 0 19,
    .singly [31453200_1_0015724800_2_0015724800_1_0015724800_2_0015724800_1_0015724800_2,
    15724800_1_0015724800_2_0063500400_3], .alternating 2 3 european 230 259]⟩]

def oceans : List Row := [
  ⟨["Atlantic/Azores"], [-6160, -6872, -7200, -3600, 0, 3600],
    [.singly [2650758160_1_0883527440_2_0140828400_3_0011754000_2_0010368000_3_0019695600_2,
    11840400_3_0019695600_2_0011840400_3_0019695600_2_0011926800_3_0019695600_2,
    11840400_3_0019695600_2_0079056000_3_0014774400_2_0048384000_3_0014515200_2,
    16329600_3_0015120000_2_0016934400_3_0015120000_2_0016934400_3_0014515200_2,
    48384000_3_0014515200_2_0015724800_3_0015724800_2_0047779200_3_0015724800_2,
    15120000_3_0016329600_2_0016934400_3_0014515200_2_0015724800_3_0015724800_2,
    15120000_3_0016329600_2_0016934400_3_0018748800_2_0008467200_3_0019526400_2,
    15552000_3_0015811200_2_0013824000_3_0003625200_4_0009676800_3_0006051600_2,
    12096000_3_0003020400_4_0011491200_3_0005446800_2_0011491200_3_0003625200_4,
    10886400_3_0005446800_2_0011491200_3_0003625200_4_0010886400_3_0005446800_2,
    13910400_3_0015724800_2_0015735600_3], .alternating 2 3 tasmanian 183 221,
    .singly [504392400_4], .alternating 3 4 tasmanian 231 252,
    .singly [7866000_4_0007858800_5_0006998400_4_0008726400_3], .alternating 4 3 european 55 267]⟩,
  ⟨["Atlantic/Bermuda"], [-15558, -11958, -14400, -10800],
    [.singly [3700354758_1_0015375600_0_0016851600_1_0013388400_0_0356410800_2_0379554042_3,
    24188400_2_0013309200_3_0019350000_2_0011494800_3_0020559600_2_0010890000_3,
    20559600_2_0048387600_3_0010278000_2_0021776400_3_0009068400_2_0022381200_3,
    9068400_2_0022986000_3_0008463600_2_0022986000_3_0008463600_2_0022986000_3,
    9068400_2_0117334800_3_0013302000_2_0552186000_3], .alternating 2 3 egyptian 134 148,
    .alternating 2 3 northAmerican 65 302]⟩,
  ⟨["Atlantic/Canary"], [-3696, -3600, 0, 3600],
    [.singly [3854998896_1_0775789104_2_1057701600_3_0015123600_2_0015724800_3],
    .alternating 2 3 european 30 267]⟩,
  ⟨["Atlantic/Cape_Verde"], [-5644, -7200, -3600],
    [.singly [3534285600_1_0967766400_2_0098492400_1_0950238000_2]]⟩,
  ⟨["Atlantic/Faroe", "Atlantic/Faeroe"], [-1624, 0, 3600],
    [.singly [3408913624_1_2310424376_2], .alternating 1 2 european 30 267]⟩,
  ⟨["Atlantic/Madeira"], [-4056, -3600, 0, 3600],
    [.singly [3534282000_1_0140828400_2_0011754000_1_0010368000_2_0019695600_1_0011840400_2,
    19695600_1_0011840400_2_0019695600_1_0011926800_2_0019695600_1_0011840400_2,
    19695600_1_0079056000_2_0014774400_1_0048384000_2_0014515200_1_0016329600_2,
    15120000_1_0016934400_2_0015120000_1_0016934400_2_0014515200_1_0048384000_2,
    14515200_1_0015724800_2_0015724800_1_0047779200_2_0015724800_1_0015120000_2,
    16329600_1_0016934400_2_0014515200_1_0015724800_2_0015724800_1_0015120000_2,
    16329600_1_0016934400_2_0018748800_1_0008467200_2_0019526400_1_0015552000_2,
    15811200_1_0013824000_2_0003625200_3_0009676800_2_0006051600_1_0012096000_2,
    3020400_3_0011491200_2_0005446800_1_0011491200_2_0003625200_3_0010886400_2,
    5446800_1_0011491200_2_0003625200_3_0010886400_2_0005446800_1_0013910400_2,
    15724800_1_0015735600_2], .alternating 1 2 tasmanian 183 221,
    .singly [504997200_3_0015120000_2_0015724800_3_0015724800_2_0015724800_3_0016329600_2,
    15724800_3_0015724800_2_0015724800_3_0015728400_2], .alternating 3 2 european 41 267]⟩,
  ⟨["Atlantic/South_Georgia"], [-8768, -7200], [.singly [2840149568_1]]⟩,
  ⟨["Atlantic/Stanley"], [-13884, -14400, -10800, -7200],
    [.singly [3540426684_1_0806026116_2_0015116400_1_0016333200_2_0015116400_1_0016938000_2,
    15116400_1_0016333200_2_0015116400_1_0016333200_2_0015116400_1_0016333200_2,
    8290800_1_1272675600_2_0012697200_3_0018745200_2_0012099600_3_0019350000_2,
    30848400_1_0012704400_2_0018745200_1_0012704400_2_0018745200_1_0012704400_2,
    18745200_1_0012704400_2_0019350000_1_0012099600_2_0019350000_1_0012704400_2,
    18745200_1_0012704400_2_0018745200_1_0012704400_2_0018745200_1_0012704400_2,
    18745200_1_0012704400_2_0019350000_1_0012704400_2_0018745200_1_0012704400_2,
    18745200_1_0012704400_2_0018745200_1_0012704400_2_0018745200_1_0012704400_2,
    18752400_1_0012099600_2_0019954800_1_0011494800_2_0019954800_1_0012099600_2,
    19350000_1_0012099600_2_0019350000_1_0012099600_2_0019350000_1_0012099600_2,
    19350000_1_0012099600_2_0019954800_1_0012099600_2_0019350000_1_0012099600_2,
    19350000_1_0012099600_2]]⟩,
  ⟨["Indian/Chagos"], [17380, 18000, 21600], [.singly [3376494620_1_2808604180_2]]⟩,
  ⟨["Indian/Maldives", "Indian/Kerguelen"], [17640, 18000], [.singly [5049025560_1]]⟩,
  ⟨["Indian/Mauritius"], [13800, 14400, 18000],
    [.singly [3376498200_1_2391205800_2_0013993200_1_0807937200_2_0013302000_1]]⟩,
  ⟨["Pacific/Apia"], [45184, -41216, -41400, -39600, -36000, 50400, 46800],
    [.singly [2919238016_1_0583545600_2_1230768184_3_1916609400_4_0016254000_3_0015120000_4,
    8366400_5_0007963200_6], .alternating 5 6 newZealand 221 239]⟩,
  ⟨["Pacific/Auckland", "Antarctica/McMurdo", "Antarctica/South_Pole", "NZ"],
    [41944, 41400, 45000, 43200, 46800],
    [.singly [2172226856_1_1862100544_2_0010278000_1_0019357200_3_0013303800_1_0018145800_3,
    13303800_1_0018145800_3_0013303800_1_0018145800_3_0013908600_1_0017541000_3,
    13908600_1_0017541000_3_0017537400_1_0013307400_3_0018142200_1_0013307400_3,
    18142200_1_0013307400_3_0018142200_1_0013307400_3_0018142200_1_0013307400_3,
    18747000_1_0012702600_3_0018747000_1_0013307400_3_1075937400_4],
    .alternating 3 4 newZealand 0 250]⟩,
  ⟨["Pacific/Bougainville"], [37336, 35312, 36000, 32400, 39600],
    [.singly [2524484264_1_0473387624_2_1498780112_3_0099104400_2_2188602000_4]]⟩,
  ⟨["Pacific/Chatham", "NZ-CHAT"], [44028, 44100, 45900, 49500],
    [.singly [2172224772_1_2435011128_2_0910059300_3], .alternating 2 3 newZealand 0 250]⟩,
  ⟨["Pacific/Easter", "Chile/EasterIsland"], [-26248, -25200, -21600, -18000],
    [.singly [4186538248_1_1141504952_2], .alternating 1 2 chilean 0 26, .singly [31449600_3],
    .alternating 2 3 chilean 28 260]⟩,
  ⟨["Pacific/Efate"], [40396, 39600, 43200],
    [.singly [3535274804_1_1954797196_2_0008467200_1_0299379600_2_0015721200_1_0015728400_2,
    15721200_1_0016333200_2_0015116400_1], .alternating 2 1 palestinian 31 40,
    .singly [15721200_1_0016333200_2_0010278000_1_0023590800_2_0007858800_1]]⟩,
  ⟨["Pacific/Fakaofo"], [-41096, -39600, 46800], [.singly [3187250696_1_3502654504_2]]⟩,
  ⟨["Pacific/Fiji"], [42944, 43200, 46800],
    [.singly [3654677056_1_2619827744_2_0010281600_1_0021772800_2_0009676800_1_0307843200_2,
    10281600_1_0018144000_2_0011491200_1_0019958400_2_0007862400_1_0023587200_2,
    7862400_1_0024192000_2_0007254000_1_0024800400_2_0006652800_1_0024796800_2,
    6652800_1_0025401600_2_0006048000_1_0025401600_2_0006048000_1_0025401600_2,
    6048000_1_0026006400_2_0005443200_1_0029635200_2_0002419200_1]]⟩,
  ⟨["Pacific/Galapagos"], [-21504, -18000, -21600],
    [.singly [4133915904_1_1735686096_2_0217990800_1_0005958000_2]]⟩,
  ⟨["Pacific/Gambier"], [-32388, -32400], [.singly [3557984388_1]]⟩,
  ⟨["Pacific/Guadalcanal", "Pacific/Pohnpei", "Pacific/Ponape"], [38388, 39600],
    [.singly [3557913612_1]]⟩,
  ⟨["Pacific/Guam", "Pacific/Saipan"], [-51660, 34740, 36000, 32400, 39600],
    [.singly [1420035660_1_1767139200_2_1291937940_3_0083293200_2_0470365200_4_0050281200_2,
    207882000_4_0044312460_2_0012711540_4_0006044400_2_0020566800_4_0011487600_2,
    19962000_4_0011487600_2_0071974800_4_0006044400_2_0071024400_4_0007599660_2,
    21171540_4_0010882800_2]]⟩,
  ⟨["Pacific/Honolulu", "HST", "Pacific/Johnston", "US/Hawaii"], [-37886, -37800, -34200, -36000],
    [.singly [3030561086_1_1176818314_2_0001846800_1_0275238000_2_0114822000_1_0053226000_3]]⟩,
  ⟨["Pacific/Kanton", "Pacific/Enderbury"], [0, -43200, -39600, 46800],
    [.singly [4344192000_1_1328097600_2_0481244400_3]]⟩,
  ⟨["Pacific/Kiritimati"], [-37760, -38400, -36000, 50400],
    [.singly [3187247360_1_2485037440_2_0481245600_3]]⟩,
  ⟨["Pacific/Kosrae"], [-47284, 39116, 39600, 32400, 36000, 43200],
    [.singly [1420031284_1_1767139200_2_0433813916_3_0136864800_2_0565394400_4_0134010000_3,
    136774800_2_0762645600_5_0923094000_2]]⟩,
  ⟨["Pacific/Kwajalein", "Kwajalein"], [40160, 39600, 36000, 32400, -43200, 43200],
    [.singly [3187169440_1_1136074160_2_0134010000_3_0089946000_1_0809474400_4_0753922800_5]]⟩,
  ⟨["Pacific/Marquesas"], [-33480, -34200], [.singly [3557985480_1]]⟩,
  ⟨["Pacific/Nauru"], [40060, 41400, 32400, 43200],
    [.singly [3819531140_1_0682213060_2_0095567400_1_1054769400_3]]⟩,
  ⟨["Pacific/Niue"], [-40780, -40800, -39600], [.singly [4821592780_1_0369446420_2]]⟩,
  ⟨["Pacific/Norfolk"], [40312, 40320, 41400, 45000, 39600, 43200],
    [.singly [3187169288_1_1577836792_2_0751686120_3_0010886400_2_1280966400_4_0126405000_5],
    .alternating 4 5 tasmanian 104 264]⟩,
  ⟨["Pacific/Noumea"], [39948, 39600, 43200],
    [.singly [3535275252_1_2079389148_2_0007340400_1_0024109200_2_0007426800_1_0560487600_2,
    7862400_1]]⟩,
  ⟨["Pacific/Pago_Pago", "Pacific/Midway", "Pacific/Samoa", "US/Samoa"], [45432, -40968, -39600],
    [.singly [2919237768_1_0583545600_2]]⟩,
  ⟨["Pacific/Palau"], [-54124, 32276, 32400], [.singly [1420038124_1_1767139200_2]]⟩,
  ⟨["Pacific/Pitcairn"], [-31220, -30600, -28800], [.singly [3187240820_1_3071087380_2]]⟩,
  ⟨["Pacific/Port_Moresby", "Antarctica/DumontDUrville", "Pacific/Chuuk", "Pacific/Truk",
    "Pacific/Yap"], [35320, 35312, 36000], [.singly [2524486280_1_0473385608_2]]⟩,
  ⟨["Pacific/Rarotonga"], [48056, -38344, -37800, -34200, -36000],
    [.singly [3155107144_1_1666483200_2_0822786656_3_0009673200_4],
    .alternating 3 4 lordHowe 10 21, .alternating 4 3 lordHowe 9 21, .singly [10884600_4]]⟩,
  ⟨["Pacific/Tahiti"], [-35896, -36000], [.singly [3557987896_1]]⟩,
  ⟨["Pacific/Tarawa", "Pacific/Funafuti", "Pacific/Majuro", "Pacific/Wake", "Pacific/Wallis"],
    [41524, 43200], [.singly [3187168076_1]]⟩,
  ⟨["Pacific/Tongatapu"], [44352, 44400, 46800, 50400],
    [.singly [4597472448_1_0483148752_2_1223256000_3_0014169600_2_0019958400_3_0007254000_2,
    24195600_3_0007254000_2_0466304400_3_0006048000_2]]⟩]

def australia : List Row := [
  ⟨["Australia/Adelaide", "Australia/South"], [33260, 32400, 34200, 37800],
    [.singly [3000552340_1_0133920860_2_0557631000_3_0007171200_2_0781747200_3_0007516800_2,
    15724800_3_0015724800_2_0016329600_3_0015120000_2_0870912000_3],
    .alternating 2 3 tasmanian 8 28, .alternating 2 3 newZealand 14 22,
    .singly [12096000_2_0018748800_3], .alternating 2 3 tasmanian 38 46,
    .singly [10886400_2_0020563200_3_0012700800_2_0018748800_3_0011491200_2_0020563200_3,
    12096000_2_0019353600_3], .alternating 2 3 european 225 247,
    .singly [13305600_2_0018144000_3_0012700800_2_0018748800_3_0013910400_2],
    .alternating 3 2 tasmanian 81 264]⟩,
  ⟨["Australia/Brisbane", "Australia/Queensland"], [36728, 36000, 39600],
    [.singly [2997870472_1_0694231928_2_0007171200_1_0781747200_2_0007516800_1_0015724800_2,
    15724800_1_0016329600_2_0015120000_1_0870912000_2_0010281600_1_0557625600_2,
    10886400_1_0020563200_2_0010886400_1_0020563200_2_0010886400_1]]⟩,
  ⟨["Australia/Broken_Hill", "Australia/Yancowinna"], [33948, 36000, 32400, 34200, 37800],
    [.singly [3000551652_1_0049159548_2_0084762000_3_0557631000_4_0007171200_3_0781747200_4,
    7516800_3_0015724800_4_0015724800_3_0016329600_4_0015120000_3_0870912000_4],
    .alternating 3 4 tasmanian 8 28,
    .singly [13910400_3_0018144000_4_0010886400_3_0020563200_4_0010886400_3_0020563200_4,
    10886400_3_0020563200_4_0012096000_3_0018748800_4_0012700800_3_0019353600_4,
    12700800_3_0019353600_4_0012096000_3_0019353600_4], .alternating 3 4 newZealand 8 20,
    .alternating 3 4 european 227 247,
    .singly [13305600_3_0018144000_4_0012700800_3_0018748800_4_0013910400_3],
    .alternating 4 3 tasmanian 81 264]⟩,
  ⟨["Australia/Darwin", "Australia/North"], [31400, 32400, 34200, 37800],
    [.singly [3000554200_1_0133919000_2_0557631000_3_0007171200_2_0781747200_3_0007516800_2,
    15724800_3_0015724800_2_0016329600_3_0015120000_2]]⟩,
  ⟨["Australia/Eucla"], [30928, 31500, 35100],
    [.singly [3026733872_1_0665373028_2_0007171200_1_0781747200_2_0007516800_1_0015724800_2,
    15724800_1_0996710400_2_0010886400_1_0273369600_2_0010886400_1_0243129600_2,
    9072000_1_0465696000_2_0009676800_1_0018748800_2_0013305600_1_0018144000_2, 13305600_1]]⟩,
  ⟨["Australia/Hobart", "Australia/Currie", "Australia/Tasmania"], [35356, 36000, 39600],
    [.singly [3018867044_1_0665286556_2_0015120000_1_0018748800_2_0010886400_1_0020563200_2,
    10886400_1_0720662400_2_0007516800_1_0015724800_2_0015724800_1_0016329600_2,
    15120000_1_0742089600_2], .alternating 1 2 tasmanian 0 264]⟩,
  ⟨["Australia/Lindeman"], [35756, 36000, 39600],
    [.singly [2997871444_1_0694230956_2_0007171200_1_0781747200_2_0007516800_1_0015724800_2,
    15724800_1_0016329600_2_0015120000_1_0870912000_2_0010281600_1_0557625600_2],
    .alternating 1 2 newZealand 20 29]⟩,
  ⟨["Australia/Lord_Howe", "Australia/LHI"], [38180, 36000, 37800, 41400, 39600],
    [.singly [3000547420_1_2716331780_2_0020568600_3_0011487600_2_0020566800_3_0010882800_2,
    20566800_3_0010882800_2_0020566800_3_0010882800_2], .alternating 4 2 lordHowe 0 229]⟩,
  ⟨["Australia/Melbourne", "Australia/Victoria"], [34792, 36000, 39600],
    [.singly [3000550808_1_0691551592_2_0007171200_1_0781747200_2_0007516800_1_0015724800_2,
    15724800_1_0016329600_2_0015120000_1_0870912000_2], .alternating 1 2 tasmanian 8 28,
    .alternating 1 2 newZealand 14 22,
    .singly [12096000_1_0018748800_2_0012700800_1_0018748800_2_0013305600_1_0019353600_2,
    12096000_1_0019353600_2_0012096000_1_0019353600_2], .alternating 1 2 newZealand 10 18,
    .alternating 1 2 european 225 236, .singly [13305600_2_0018144000_1],
    .alternating 2 1 european 250 259,
    .singly [13305600_1_0018144000_2_0012700800_1_0018748800_2_0013910400_1],
    .alternating 2 1 tasmanian 81 264]⟩,
  ⟨["Australia/Perth", "Australia/West"], [27804, 28800, 32400],
    [.singly [3026736996_1_0665372604_2_0007171200_1_0781747200_2_0007516800_1_0015724800_2,
    15724800_1_0996710400_2_0010886400_1_0273369600_2_0010886400_1_0243129600_2,
    9072000_1_0465696000_2_0009676800_1_0018748800_2_0013305600_1_0018144000_2, 13305600_1]]⟩,
  ⟨["Australia/Sydney", "Australia/ACT", "Australia/Canberra", "Australia/NSW"],
    [36292, 36000, 39600],
    [.singly [3000549308_1_0691553092_2_0007171200_1_0781747200_2_0007516800_1_0015724800_2,
    15724800_1_0016329600_2_0015120000_1_0870912000_2], .alternating 1 2 tasmanian 8 28,
    .singly [13910400_1_0018144000_2_0010886400_1_0020563200_2_0010886400_1_0020563200_2,
    10886400_1_0020563200_2_0012096000_1_0018748800_2_0012700800_1_0019353600_2,
    12700800_1_0019353600_2_0012096000_1_0019353600_2], .alternating 1 2 newZealand 8 20,
    .alternating 1 2 european 227 236, .singly [13305600_2_0018144000_1],
    .alternating 2 1 european 250 259,
    .singly [13305600_1_0018144000_2_0012700800_1_0018748800_2_0013910400_1],
    .alternating 2 1 tasmanian 81 264]⟩]

def rows : List Row :=
  etcetera ++ europe ++ africa ++ americaNorth ++ americaSouth ++ antarctica ++ asia ++ oceans ++
    australia

end ZoneTable

end FeatureFlags.Time

import Multiplex.Text.Blank

/-!
# Delivery systems

The broadcasting standards a frontend can receive. Each has a number, by which a frontend knows
it, and a name, by which scan tables know it.
-/

namespace Multiplex.Tuner

open Multiplex.Text

/-- A broadcasting standard. -/
inductive DeliverySystem
  | undefined
  | dvbcAnnexA
  | dvbcAnnexB
  | dvbt
  | dss
  | dvbs
  | dvbs2
  | dvbh
  | isdbt
  | isdbs
  | isdbc
  | atsc
  | atscMh
  | dtmb
  | cmmb
  | dab
  | dvbt2
  | turbo
  | dvbcAnnexC
  | dvbc2
  deriving DecidableEq

namespace DeliverySystem

/-- All delivery systems in the order of their numbers. -/
def all : List DeliverySystem := [
  undefined, dvbcAnnexA, dvbcAnnexB, dvbt, dss, dvbs, dvbs2, dvbh, isdbt, isdbs, isdbc, atsc,
  atscMh, dtmb, cmmb, dab, dvbt2, turbo, dvbcAnnexC, dvbc2]

/-- The number of a delivery system. -/
def number (d : DeliverySystem) : Nat := all.idxOf d

/-- The delivery system with a number; a number without one is undefined. -/
def ofNumber (n : Nat) : DeliverySystem := all.getD n undefined

/-- The name in scan tables. -/
def name : DeliverySystem → String
  | undefined => "UNDEFINED"
  | dvbcAnnexA => "DVBC/ANNEX_A"
  | dvbcAnnexB => "DVBC/ANNEX_B"
  | dvbt => "DVBT"
  | dss => "DSS"
  | dvbs => "DVBS"
  | dvbs2 => "DVBS2"
  | dvbh => "DVBH"
  | isdbt => "ISDBT"
  | isdbs => "ISDBS"
  | isdbc => "ISDBC"
  | atsc => "ATSC"
  | atscMh => "ATSCMH"
  | dtmb => "DTMB"
  | cmmb => "CMMB"
  | dab => "DAB"
  | dvbt2 => "DVBT2"
  | turbo => "TURBO"
  | dvbcAnnexC => "DVBC/ANNEX_C"
  | dvbc2 => "DVBC2"

/-- The name within the long text of a value. -/
def label : DeliverySystem → String
  | undefined => "Undefined"
  | dvbcAnnexA => "DvbcAnnexA"
  | dvbcAnnexB => "DvbcAnnexB"
  | dvbt => "Dvbt"
  | dss => "Dss"
  | dvbs => "Dvbs"
  | dvbs2 => "Dvbs2"
  | dvbh => "Dvbh"
  | isdbt => "Isdbt"
  | isdbs => "Isdbs"
  | isdbc => "Isdbc"
  | atsc => "Atsc"
  | atscMh => "AtscMh"
  | dtmb => "Dtmb"
  | cmmb => "Cmmb"
  | dab => "Dab"
  | dvbt2 => "Dvbt2"
  | turbo => "Turbo"
  | dvbcAnnexC => "DvbcAnnexC"
  | dvbc2 => "Dvbc2"

/-- The delivery system with a name. Blanks around the name and the case of ASCII letters do not
matter, and no name stands for `undefined`. -/
def ofName? (name : String) : Option DeliverySystem :=
  (all.filter (· != undefined)).find? fun d => sameIgnoringCase d.name.toList (trim name.toList)

theorem ofNumber_number (d : DeliverySystem) : ofNumber d.number = d := by cases d <;> rfl

end DeliverySystem

end Multiplex.Tuner

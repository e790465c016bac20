/-!
# Table identifiers

The first byte of a section says which table it is a part of. Five kinds of table are known
here; `ofByte?` and `byte` lead from the byte to its meaning and back.
-/

namespace Multiplex.Section

/-- The tables known here. Network, service and event tables describe either the multiplex they
are sent in (`actual`) or another one. -/
inductive TableId
  | pat
  | pmt
  | nitActual
  | nitOther
  | sdtActual
  | sdtOther
  | eitActual
  | eitOther
  /-- A part of an event schedule, with its own byte 0x50 to 0x6F. -/
  | eitSchedule (byte : UInt8)
  deriving DecidableEq

/-- The layouts of a section's body. -/
inductive Layout
  | programAssociation
  | programMap
  | networkInformation
  | serviceDescription
  | eventInformation
  deriving DecidableEq

namespace TableId

/-- The table a byte stands for. -/
def ofByte? (b : UInt8) : Option TableId :=
  if b = 0x00 then some pat
  else if b = 0x02 then some pmt
  else if b = 0x40 then some nitActual
  else if b = 0x41 then some nitOther
  else if b = 0x42 then some sdtActual
  else if b = 0x46 then some sdtOther
  else if b = 0x4E then some eitActual
  else if b = 0x4F then some eitOther
  else if 0x50 ≤ b ∧ b ≤ 0x6F then some (eitSchedule b)
  else none

/-- The byte of a table. -/
def byte : TableId → UInt8
  | pat => 0x00
  | pmt => 0x02
  | nitActual => 0x40
  | nitOther => 0x41
  | sdtActual => 0x42
  | sdtOther => 0x46
  | eitActual => 0x4E
  | eitOther => 0x4F
  | eitSchedule b => b

/-- The layout of a table's sections. -/
def layout : TableId → Layout
  | pat => .programAssociation
  | pmt => .programMap
  | nitActual | nitOther => .networkInformation
  | sdtActual | sdtOther => .serviceDescription
  | eitActual | eitOther | eitSchedule _ => .eventInformation

/-- The bits above the section length. The second of them is clear in the two tables that MPEG-2
defines and set in the others. -/
def lengthFlags : TableId → Nat
  | pat | pmt => 0xB000
  | _ => 0xF000

/-- The name of a table. -/
def name : TableId → String
  | pat => "Pat"
  | pmt => "Pmt"
  | nitActual => "NitActual"
  | nitOther => "NitOther"
  | sdtActual => "SdtActual"
  | sdtOther => "SdtOther"
  | eitActual => "EitActual"
  | eitOther => "EitOther"
  | eitSchedule b => "EitSchedule(" ++ toString b.toNat ++ ")"

end TableId

end Multiplex.Section

import Multiplex.Section.Json
import Multiplex.Text.Broadcast

/-!
# What descriptors mean

`Descriptor.meaning` reads the payload of the nine kinds of descriptor known here. It never fails:
a payload that breaks the form of its kind, and any other descriptor, is a hexadecimal dump.
-/

namespace Multiplex.Section

open Multiplex.Wire Multiplex.Text

/-- The tags of the known kinds. -/
inductive Kind
  | networkName
  | serviceList
  | service
  | shortEvent
  | content
  | parentalRating
  | terrestrialDelivery
  | privateDataSpecifier
  | defaultAuthority
  deriving DecidableEq

/-- The kind a tag stands for. -/
def Kind.ofTag? (tag : UInt8) : Option Kind :=
  if tag = 0x40 then some networkName
  else if tag = 0x41 then some serviceList
  else if tag = 0x48 then some service
  else if tag = 0x4D then some shortEvent
  else if tag = 0x54 then some content
  else if tag = 0x55 then some parentalRating
  else if tag = 0x5A then some terrestrialDelivery
  else if tag = 0x5F then some privateDataSpecifier
  else if tag = 0x73 then some defaultAuthority
  else none

/-- The tag of a network name. -/
def Kind.networkNameTag : UInt8 := 0x40

/-- The tag of a service's name and provider. -/
def Kind.serviceTag : UInt8 := 0x48

/-- The tag of an event's name and text. -/
def Kind.shortEventTag : UInt8 := 0x4D

/-- A service and its type. -/
structure ListedService where
  id : UInt16
  serviceType : UInt8
  deriving DecidableEq

/-- A genre in two levels, and a byte of the broadcaster's own. -/
structure Genre where
  level1 : UInt8
  level2 : UInt8
  user : UInt8
  deriving DecidableEq

/-- The name of a genre's first level. -/
def Genre.name (g : Genre) : String :=
  match g.level1.toNat with
  | 0x1 => "Movie/Drama"
  | 0x2 => "News/Current affairs"
  | 0x3 => "Show/Game show"
  | 0x4 => "Sports"
  | 0x5 => "Children's/Youth"
  | 0x6 => "Music/Ballet/Dance"
  | 0x7 => "Arts/Culture"
  | 0x8 => "Social/Political/Economics"
  | 0x9 => "Education/Science/Factual"
  | 0xA => "Leisure hobbies"
  | 0xB => "Special characteristics"
  | 0xF => "User defined"
  | _ => "Undefined"

/-- A rating for viewers in a country. -/
structure CountryRating where
  country : String
  rating : UInt8
  deriving DecidableEq

/-- The least age of viewers, where the rating gives one. -/
def CountryRating.minimumAge? (r : CountryRating) : Option Nat :=
  if 1 ≤ r.rating ∧ r.rating ≤ 15 then some (r.rating.toNat + 3) else none

/-- The parameters of a terrestrial channel. -/
structure TerrestrialDelivery where
  centreFrequencyHz : Nat
  bandwidthMhz : Option Nat
  highPriority : Bool
  timeSlicing : Bool
  mpeFec : Bool
  constellation : String
  hierarchy : Nat
  codeRateHp : String
  codeRateLp : String
  guardInterval : String
  transmissionMode : String
  otherFrequency : Bool
  deriving DecidableEq

/-- What a descriptor says. -/
inductive Meaning
  | networkName (name : String)
  | serviceList (services : List ListedService)
  | service (serviceType : UInt8) (provider name : String)
  | shortEvent (language name text : String)
  | content (genres : List Genre)
  | parentalRating (ratings : List CountryRating)
  | terrestrialDelivery (delivery : TerrestrialDelivery)
  | privateDataSpecifier (value : UInt32)
  | defaultAuthority (name : String)
  /-- The bytes of any other payload. -/
  | raw (dump : String)
  deriving DecidableEq

/-- Items to the end of the payload. -/
def items (item : Reader α) : Reader (List α) := Reader.many (!·.atEnd) item

/-- A text behind its length. -/
def readText : Reader String := do
  let length ← Reader.u8
  return broadcastText (← Reader.bytes length.toNat)

/-- A code of three letters. -/
def readCode : Reader String := return String.ofList (decodeUtf8 (← Reader.bytes 3))

/-- A service of a list. -/
def ListedService.read : Reader ListedService := do
  let id ← Reader.u16
  return ⟨id, ← Reader.u8⟩

/-- A genre. -/
def Genre.read : Reader Genre := do
  let levels ← Reader.u8
  return ⟨levels / 16, levels % 16, ← Reader.u8⟩

/-- A country's rating. -/
def CountryRating.read : Reader CountryRating := do
  let country ← readCode
  return ⟨country, ← Reader.u8⟩

/-- Code rates by their three bits. -/
def codeRate (bits : Nat) : String :=
  ["1/2", "2/3", "3/4", "5/6", "7/8"].getD bits "reserved"

/-- Bandwidths by their three bits. -/
def bandwidth? (bits : Nat) : Option Nat := [8, 7, 6, 5][bits]?

/-- The parameters of a terrestrial channel: a frequency in tens of hertz, three bytes of bit
fields and four of no meaning. -/
def TerrestrialDelivery.read : Reader TerrestrialDelivery := do
  let frequency ← Reader.u32
  let b0 := (← Reader.u8).toNat
  let b1 := (← Reader.u8).toNat
  let b2 := (← Reader.u8).toNat
  let _ ← Reader.bytes 4
  return {
    centreFrequencyHz := frequency.toNat * 10
    bandwidthMhz := bandwidth? (b0 / 0x20)
    highPriority := b0 / 0x10 % 2 = 1
    timeSlicing := b0 / 0x08 % 2 = 0
    mpeFec := b0 / 0x04 % 2 = 0
    constellation := ["QPSK", "16-QAM", "64-QAM"].getD (b1 / 0x40) "reserved"
    hierarchy := b1 / 0x08 % 8
    codeRateHp := codeRate (b1 % 8)
    codeRateLp := codeRate (b2 / 0x20)
    guardInterval := ["1/32", "1/16", "1/8"].getD (b2 / 0x08 % 4) "1/4"
    transmissionMode := ["2k", "8k", "4k"].getD (b2 / 0x02 % 4) "reserved"
    otherFrequency := b2 % 2 = 1 }

/-- The payload of each kind. -/
def Meaning.read (payload : List UInt8) : Kind → Reader Meaning
  | .networkName => return .networkName (broadcastText payload)
  | .serviceList => return .serviceList (← items ListedService.read)
  | .service => do
    let serviceType ← Reader.u8
    let provider ← readText
    return .service serviceType provider (← readText)
  | .shortEvent => do
    let language ← readCode
    let name ← readText
    return .shortEvent language name (← readText)
  | .content => return .content (← items Genre.read)
  | .parentalRating => return .parentalRating (← items CountryRating.read)
  | .terrestrialDelivery => return .terrestrialDelivery (← TerrestrialDelivery.read)
  | .privateDataSpecifier => return .privateDataSpecifier (← Reader.u32)
  | .defaultAuthority => return .defaultAuthority (broadcastText payload)

/-- What a descriptor says. -/
def Descriptor.meaning (d : Descriptor) : Meaning :=
  match Kind.ofTag? d.tag with
  | none => .raw (hexDump d.payload)
  | some kind =>
    match Meaning.read d.payload kind (.ofBytes d.payload) with
    | .ok m _ => m
    | .error _ _ => .raw (hexDump d.payload)

/-- A listed service for people to read. -/
def ListedService.text (s : ListedService) : String :=
  " 0x" ++ hexUpper 4 s.id.toNat ++ "/type 0x" ++ hexUpper 2 s.serviceType.toNat

/-- A rating for people to read. -/
def CountryRating.text (r : CountryRating) : String :=
  match r.minimumAge? with
  | some age => s!" {r.country} {age}+"
  | none => " " ++ r.country ++ " 0x" ++ hexUpper 2 r.rating.toNat

/-- The parameters of a channel for people to read. -/
def TerrestrialDelivery.text (t : TerrestrialDelivery) : String :=
  let bandwidth := match t.bandwidthMhz with
    | some b => toString b
    | none => "?"
  s!"terrestrial delivery: {t.centreFrequencyHz} Hz, {bandwidth} MHz, {t.constellation}, " ++
    s!"FEC {t.codeRateHp}, GI {t.guardInterval}, {t.transmissionMode}"

/-- A meaning for people to read. -/
def Meaning.text : Meaning → String
  | .networkName name => s!"network name: {name}"
  | .serviceList services => "service list:" ++ String.join (services.map ListedService.text)
  | .service serviceType provider name =>
    s!"service: {name} (provider {provider}, type 0x" ++ hexUpper 2 serviceType.toNat ++ ")"
  | .shortEvent language name text => s!"short event [{language}]: {name} - {text}"
  | .content genres => "content: " ++ String.intercalate ", " (genres.map Genre.name)
  | .parentalRating ratings => "parental rating:" ++ String.join (ratings.map CountryRating.text)
  | .terrestrialDelivery delivery => delivery.text
  | .privateDataSpecifier value => "private data specifier: 0x" ++ hexUpper 8 value.toNat
  | .defaultAuthority name => s!"default authority: {name}"
  | .raw dump => s!"raw: {dump}"

/-- A descriptor for people to read. -/
def Descriptor.text (d : Descriptor) : String :=
  "[0x" ++ hexUpper 2 d.tag.toNat ++ "] " ++ d.meaning.text

/-- A listed service as JSON. -/
def ListedService.json (s : ListedService) : Json :=
  .object [("service_id", .number s.id.toNat), ("service_type", .number s.serviceType.toNat)]

/-- A genre as JSON. -/
def Genre.json (g : Genre) : Json :=
  .object [("level1", .number g.level1.toNat), ("level2", .number g.level2.toNat),
    ("user", .number g.user.toNat)]

/-- A rating as JSON. -/
def CountryRating.json (r : CountryRating) : Json :=
  .object [("country", .string r.country), ("rating", .number r.rating.toNat)]

/-- The parameters of a channel as JSON. -/
def TerrestrialDelivery.json (t : TerrestrialDelivery) : Json :=
  .object [("centre_frequency_hz", .number t.centreFrequencyHz),
    ("bandwidth_mhz", .ofOption .number t.bandwidthMhz), ("high_priority", .bool t.highPriority),
    ("time_slicing", .bool t.timeSlicing), ("mpe_fec", .bool t.mpeFec),
    ("constellation", .string t.constellation), ("hierarchy", .number t.hierarchy),
    ("code_rate_hp", .string t.codeRateHp), ("code_rate_lp", .string t.codeRateLp),
    ("guard_interval", .string t.guardInterval), ("transmission_mode", .string t.transmissionMode),
    ("other_frequency", .bool t.otherFrequency)]

/-- The name of a meaning's kind and its value as JSON. -/
def Meaning.jsonParts : Meaning → String × Json
  | .networkName name => ("network_name", .string name)
  | .serviceList services => ("service_list", .array (services.map ListedService.json))
  | .service serviceType provider name =>
    ("service", .object [("service_type", .number serviceType.toNat),
      ("provider_name", .string provider), ("service_name", .string name)])
  | .shortEvent language name text =>
    ("short_event", .object [("language", .string language), ("event_name", .string name),
      ("text", .string text)])
  | .content genres => ("content", .array (genres.map Genre.json))
  | .parentalRating ratings => ("parental_rating", .array (ratings.map CountryRating.json))
  | .terrestrialDelivery delivery => ("terrestrial_delivery", delivery.json)
  | .privateDataSpecifier value => ("private_data_specifier", .number value.toNat)
  | .defaultAuthority name => ("default_authority", .string name)
  | .raw dump => ("raw", .string dump)

/-- A meaning as JSON. -/
def Meaning.json (m : Meaning) : Json :=
  let (kind, value) := m.jsonParts
  .object [("kind", .string kind), ("value", value)]

end Multiplex.Section

import MaterialEmail.Library.JsString
import Mathlib.Data.List.TakeDrop

/-! What is risky about an attachment, told from its name and its declared type. -/
namespace MailService

inductive AttachmentRiskLevel where
  | ordinary
  | caution
  | dangerous
  deriving DecidableEq, Repr

inductive AttachmentRiskReason where
  | windowsExecutable
  | windowsScript
  | windowsShortcut
  | windowsInstaller
  | macroEnabledDocument
  | doubleExtension
  | trailingDotOrSpace
  | bidirectionalControl
  | mimeExtensionMismatch
  deriving DecidableEq, Repr

structure AttachmentRiskAssessment where
  level : AttachmentRiskLevel
  reasons : List AttachmentRiskReason
  deriving DecidableEq

section Tables

def texts (list : List String) : List JsString := list.map JsString.ofString

def windowsExecutableExtensions : List JsString :=
  texts [".com", ".cpl", ".dll", ".drv", ".exe", ".ocx", ".pif", ".scr", ".sys"]

def windowsScriptExtensions : List JsString :=
  texts [".bat", ".cmd", ".hta", ".inf", ".js", ".jse", ".ps1", ".psd1", ".psm1", ".reg", ".scf", ".vbe", ".vbs", ".wsf",
    ".wsh"]

def windowsShortcutExtensions : List JsString := texts [".library-ms", ".lnk", ".search-ms", ".url", ".website"]

def windowsInstallerExtensions : List JsString :=
  texts [".appinstaller", ".appx", ".appxbundle", ".msi", ".msix", ".msixbundle", ".msp", ".mst"]

def macroEnabledExtensions : List JsString :=
  texts [".docm", ".dotm", ".ppam", ".potm", ".ppsm", ".pptm", ".sldm", ".xlam", ".xlsb", ".xlsm", ".xltm"]

def deceptiveLeadExtensions : List JsString :=
  texts [".7z", ".bmp", ".csv", ".doc", ".docm", ".docx", ".gif", ".jpeg", ".jpg", ".json", ".odg", ".odp", ".ods", ".odt",
    ".pdf", ".png", ".ppt", ".pptm", ".pptx", ".rar", ".rtf", ".svg", ".tar", ".tif", ".tiff", ".txt", ".webp", ".xls",
    ".xlsm", ".xlsx", ".xml", ".zip"]

def commonCompoundExtensions : List JsString :=
  texts [".tar.bz2", ".tar.gz", ".tar.lz", ".tar.lz4", ".tar.xz", ".tar.zst"]

def genericMimeTypes : List JsString :=
  texts ["", "application/force-download", "application/octet-stream", "application/x-download", "binary/octet-stream"]

def mimeTypesByExtension : List (JsString × List JsString) :=
  [(".7z", ["application/x-7z-compressed"]),
    (".bmp", ["image/bmp"]),
    (".csv", ["text/csv", "application/csv"]),
    (".doc", ["application/msword"]),
    (".docm", ["application/vnd.ms-word.document.macroenabled.12"]),
    (".docx", ["application/vnd.openxmlformats-officedocument.wordprocessingml.document"]),
    (".dotm", ["application/vnd.ms-word.template.macroenabled.12"]),
    (".exe", ["application/vnd.microsoft.portable-executable", "application/x-dosexec", "application/x-msdownload"]),
    (".gif", ["image/gif"]),
    (".htm", ["text/html"]),
    (".html", ["text/html"]),
    (".jpeg", ["image/jpeg"]),
    (".jpg", ["image/jpeg"]),
    (".json", ["application/json", "text/json"]),
    (".msi", ["application/x-msi", "application/x-msdownload", "application/octet-stream"]),
    (".odp", ["application/vnd.oasis.opendocument.presentation"]),
    (".ods", ["application/vnd.oasis.opendocument.spreadsheet"]),
    (".odt", ["application/vnd.oasis.opendocument.text"]),
    (".pdf", ["application/pdf"]),
    (".png", ["image/png"]),
    (".ppt", ["application/vnd.ms-powerpoint"]),
    (".pptm", ["application/vnd.ms-powerpoint.presentation.macroenabled.12"]),
    (".pptx", ["application/vnd.openxmlformats-officedocument.presentationml.presentation"]),
    (".rar", ["application/vnd.rar", "application/x-rar-compressed"]),
    (".rtf", ["application/rtf", "text/rtf"]),
    (".svg", ["image/svg+xml"]),
    (".tif", ["image/tiff"]),
    (".tiff", ["image/tiff"]),
    (".txt", ["text/plain"]),
    (".webp", ["image/webp"]),
    (".xls", ["application/vnd.ms-excel"]),
    (".xlsb", ["application/vnd.ms-excel.sheet.binary.macroenabled.12"]),
    (".xlsm", ["application/vnd.ms-excel.sheet.macroenabled.12"]),
    (".xlsx", ["application/vnd.openxmlformats-officedocument.spreadsheetml.sheet"]),
    (".xml", ["application/xml", "text/xml"]),
    (".zip", ["application/zip", "application/x-zip-compressed"])].map
      fun (extension, types) => (JsString.ofString extension, texts types)

def reasonOrder : List AttachmentRiskReason :=
  [.windowsExecutable, .windowsScript, .windowsShortcut, .windowsInstaller, .macroEnabledDocument, .doubleExtension,
    .trailingDotOrSpace, .bidirectionalControl, .mimeExtensionMismatch]

end Tables

/-- `split(/[\\/]/u).at(-1)`. -/
def filenameOnly (value : JsString) : JsString :=
  ((value.splitOnP fun unit => unit = 92 || unit = 47).getLast?).getD value

def isDotOrSpace (unit : UInt16) : Bool := unit = 46 || unit = 32

/-- A text cut at its last dot, if that is not in front: what stands before the dot, and the rest from it on. -/
def atLastDot (text : JsString) : Option (JsString × JsString) :=
  let before := (text.rdropWhile (· ≠ 46)).dropLast
  if 46 ∈ text ∧ before ≠ [] then some (before, 46 :: text.rtakeWhile (· ≠ 46)) else none

/-- `/[\u061c\u200e\u200f\u202a-\u202e\u2066-\u2069]/u`. -/
def isBidirectionalControl (unit : UInt16) : Bool :=
  unit = 0x061C || unit = 0x200E || unit = 0x200F || (0x202A ≤ unit && unit ≤ 0x202E) || (0x2066 ≤ unit && unit ≤ 0x2069)

variable (letters : LetterCase)

def extensionOf (filename : JsString) : JsString :=
  match atLastDot (filename.rdropWhile isDotOrSpace) with
  | some (_, extension) => letters.lower extension
  | none => []

def hasDeceptiveDoubleExtension (filename : JsString) : Bool :=
  let normalized := letters.lower (filename.rdropWhile isDotOrSpace)
  if commonCompoundExtensions.any fun extension => extension.isSuffixOf normalized then false
  else
    match atLastDot normalized with
    | none => false
    | some (previous, _) =>
      match atLastDot previous with
      | none => false
      | some (_, lead) => lead ∈ deceptiveLeadExtensions

def normalizedMimeType (contentType : JsString) : JsString :=
  letters.lower (JsString.trim (contentType.takeWhile (· ≠ 59)))

def hasMimeExtensionMismatch (extension contentType : JsString) : Bool :=
  let mimeType := normalizedMimeType letters contentType
  if extension = [] ∨ mimeType ∈ genericMimeTypes then false
  else
    match mimeTypesByExtension.find? fun entry => entry.1 = extension with
    | none => false
    | some (_, expected) => mimeType ∉ expected

/-- Whether a reason applies. -/
def applies (leaf contentType : JsString) : AttachmentRiskReason → Bool
  | .windowsExecutable => extensionOf letters leaf ∈ windowsExecutableExtensions
  | .windowsScript => extensionOf letters leaf ∈ windowsScriptExtensions
  | .windowsShortcut => extensionOf letters leaf ∈ windowsShortcutExtensions
  | .windowsInstaller => extensionOf letters leaf ∈ windowsInstallerExtensions
  | .macroEnabledDocument => extensionOf letters leaf ∈ macroEnabledExtensions
  | .doubleExtension => hasDeceptiveDoubleExtension letters leaf
  | .trailingDotOrSpace => leaf.getLast?.any isDotOrSpace
  | .bidirectionalControl => leaf.any isBidirectionalControl
  | .mimeExtensionMismatch => hasMimeExtensionMismatch letters (extensionOf letters leaf) contentType

def isDangerous : AttachmentRiskReason → Bool
  | .windowsExecutable | .windowsScript | .windowsShortcut | .windowsInstaller | .bidirectionalControl => true
  | _ => false

def classifyAttachment (filename contentType : JsString) : AttachmentRiskAssessment :=
  let orderedReasons := reasonOrder.filter (applies letters (filenameOnly filename) contentType)
  { level :=
      if orderedReasons.any isDangerous then .dangerous
      else if orderedReasons ≠ [] then .caution
      else .ordinary
    reasons := orderedReasons }

theorem classifyAttachment_reasons (filename contentType : JsString) :
    (classifyAttachment letters filename contentType).reasons.length ≤ 9 := List.length_filter_le _ reasonOrder

example : classifyAttachment .ascii (JsString.ofString "C:\\mail\\invoice.PDF.exe ") (JsString.ofString "application/pdf") =
    ⟨.dangerous, [.windowsExecutable, .doubleExtension, .trailingDotOrSpace, .mimeExtensionMismatch]⟩ := by decide +kernel

end MailService

/-
  CommandLang/Builtin.lean
  ========================
  **The built-in vocabulary.**

  A vocabulary is all that the reading of a definition depends on: the commands, the specs of their
  arguments and the mapping of commands to groups.  The built-in one has 68 commands.  Those that
  create annotations share one group, the four that scroll or turn pages by a count share another,
  and the one that runs an external program has its own.
-/
import CommandLang.Catalog
import CommandLang.Spec.Check

namespace CommandLang

/-- What definitions are read against. -/
structure Vocabulary where
  commands : Catalog
  specs : List Spec
  groups : Groups

namespace Vocabulary

/-- The group of a command. -/
def groupOf (v : Vocabulary) (command : Int) : Int := v.groups.groupOf command

/-- The specs of the arguments that a command takes; none if it takes no arguments. -/
def specsFor (v : Vocabulary) (command : Int) : List Spec :=
  if v.groups.accepts command then Spec.ofGroup (v.groupOf command) v.specs else []

end Vocabulary

namespace Builtin

/-! ### Commands -/

/-- Opening, saving and closing documents. -/
def fileCommands : Catalog :=
  [⟨200, "OpenFile", "Open File..."⟩,
   ⟨201, "Close", "Close Document"⟩,
   ⟨202, "SaveAs", "Save As..."⟩,
   ⟨203, "Print", "Print..."⟩,
   ⟨204, "Reload", "Reload Document"⟩,
   ⟨205, "NewWindow", "Open New Window"⟩,
   ⟨206, "ShowInFolder", "Show File In Folder"⟩,
   ⟨207, "RenameFile", "Rename File..."⟩,
   ⟨208, "DeleteFile", "Delete File"⟩,
   ⟨209, "CopyFilePath", "Copy File Path"⟩,
   ⟨210, "Properties", "Show Document Properties"⟩,
   ⟨211, "Exit", "Exit Application"⟩]

/-- How a document is shown. -/
def viewCommands : Catalog :=
  [⟨220, "ToggleFullscreen", "Toggle Fullscreen"⟩,
   ⟨221, "TogglePresentationMode", "View: Presentation Mode"⟩,
   ⟨222, "ToggleBookmarks", "Toggle Bookmarks"⟩,
   ⟨223, "ToggleToolbar", "Toggle Toolbar"⟩,
   ⟨224, "ToggleMenuBar", "Toggle Menu Bar"⟩,
   ⟨225, "SinglePageView", "View: Single Page"⟩,
   ⟨226, "FacingView", "View: Facing"⟩,
   ⟨227, "BookView", "View: Book"⟩,
   ⟨228, "ToggleContinuousView", "View: Toggle Continuous"⟩,
   ⟨229, "RotateLeft", "Rotate Left"⟩,
   ⟨230, "RotateRight", "Rotate Right"⟩]

/-- Moving through a document. -/
def navigationCommands : Catalog :=
  [⟨240, "ScrollUp", "Scroll Up"⟩,
   ⟨241, "ScrollDown", "Scroll Down"⟩,
   ⟨242, "ScrollLeft", "Scroll Left"⟩,
   ⟨243, "ScrollRight", "Scroll Right"⟩,
   ⟨244, "ScrollUpPage", "Scroll Up By Page"⟩,
   ⟨245, "ScrollDownPage", "Scroll Down By Page"⟩,
   ⟨246, "GoToNextPage", "Next Page"⟩,
   ⟨247, "GoToPrevPage", "Previous Page"⟩,
   ⟨248, "GoToFirstPage", "First Page"⟩,
   ⟨249, "GoToLastPage", "Last Page"⟩,
   ⟨250, "GoToPage", "Go to Page..."⟩,
   ⟨251, "NavigateBack", "Navigate: Back"⟩,
   ⟨252, "NavigateForward", "Navigate: Forward"⟩]

/-- Finding and selecting text. -/
def searchCommands : Catalog :=
  [⟨260, "FindFirst", "Find..."⟩,
   ⟨261, "FindNext", "Find Next"⟩,
   ⟨262, "FindPrev", "Find Previous"⟩,
   ⟨263, "FindMatchCase", "Find: Match Case"⟩,
   ⟨264, "CopySelection", "Copy Selection"⟩,
   ⟨265, "SelectAll", "Select All"⟩]

/-- How large a document is shown. -/
def zoomCommands : Catalog :=
  [⟨270, "ZoomIn", "Zoom In"⟩,
   ⟨271, "ZoomOut", "Zoom Out"⟩,
   ⟨272, "ZoomFitPage", "Zoom: Fit Page"⟩,
   ⟨273, "ZoomFitWidth", "Zoom: Fit Width"⟩,
   ⟨274, "ZoomActualSize", "Zoom: Actual Size"⟩]

/-- Creating annotations. -/
def annotationCommands : Catalog :=
  [⟨280, "CreateAnnotText", "Create Text Annotation"⟩,
   ⟨281, "CreateAnnotLink", "Create Link Annotation"⟩,
   ⟨282, "CreateAnnotFreeText", "Create Free Text Annotation"⟩,
   ⟨283, "CreateAnnotLine", "Create Line Annotation"⟩,
   ⟨284, "CreateAnnotSquare", "Create Square Annotation"⟩,
   ⟨285, "CreateAnnotCircle", "Create Circle Annotation"⟩,
   ⟨286, "CreateAnnotPolygon", "Create Polygon Annotation"⟩,
   ⟨287, "CreateAnnotPolyLine", "Create Poly Line Annotation"⟩,
   ⟨288, "CreateAnnotHighlight", "Create Highlight Annotation"⟩,
   ⟨289, "CreateAnnotUnderline", "Create Underline Annotation"⟩,
   ⟨290, "CreateAnnotSquiggly", "Create Squiggly Annotation"⟩,
   ⟨291, "CreateAnnotStrikeOut", "Create Strike Out Annotation"⟩,
   ⟨292, "CreateAnnotRedact", "Create Redact Annotation"⟩,
   ⟨293, "CreateAnnotStamp", "Create Stamp Annotation"⟩,
   ⟨294, "CreateAnnotCaret", "Create Caret Annotation"⟩,
   ⟨295, "CreateAnnotInk", "Create Ink Annotation"⟩,
   ⟨296, "CreateAnnotPopup", "Create Popup Annotation"⟩,
   ⟨297, "CreateAnnotFileAttachment", "Create File Attachment Annotation"⟩]

/-- The application as a whole. -/
def applicationCommands : Catalog :=
  [⟨300, "Options", "Options..."⟩,
   ⟨301, "CommandPalette", "Command Palette"⟩,
   ⟨302, "Exec", "Run External Program"⟩]

/-- All commands, in the order of their ids. -/
def commands : Catalog :=
  fileCommands ++ viewCommands ++ navigationCommands ++ searchCommands ++ zoomCommands ++
    annotationCommands ++ applicationCommands

/-! ### Arguments -/

/-- The command whose group is shared by the commands that create annotations. -/
def annotationGroup : Int := 280

/-- The command whose group is shared by the commands that scroll or turn pages by a count. -/
def scrollGroup : Int := 240

/-- The command that runs an external program. -/
def execGroup : Int := 302

/-- The specs of all groups.  A default argument of kind string takes the rest of a definition, so
    the other arguments of its group have to come before it in the text. -/
def specs : List Spec :=
  [⟨execGroup, "spec", .string⟩,
   ⟨execGroup, "filter", .string⟩,
   ⟨annotationGroup, "color", .color⟩,
   ⟨annotationGroup, "openedit", .bool⟩,
   ⟨scrollGroup, "n", .int⟩]

/-- The commands that scroll or turn pages by a count. -/
def scrollCommands : List Int := [240, 241, 246, 247]

/-- The group of each command that takes arguments, in the order of the commands' ids. -/
def groups : Groups :=
  scrollCommands.map (·, scrollGroup) ++
    annotationCommands.map (fun c => (c.id, annotationGroup)) ++ [(execGroup, execGroup)]

/-- The built-in vocabulary. -/
def vocabulary : Vocabulary := ⟨commands, specs, groups⟩

end Builtin

end CommandLang

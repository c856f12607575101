import MarkupLint.Protocol.Shape

/-! The records that an editor sends with its messages. -/
namespace MarkupLint.Shape

def need (name : String) (s : Shape) : String × Presence × Shape := (name, .required, s)

def may (name : String) (s : Shape) : String × Presence × Shape := (name, .nullable, .optional s)

def spare (name : String) (s : Shape) : String × Presence × Shape :=
  (name, .defaulted, .optional s)

def flags (names : List String) : List (String × Presence × Shape) :=
  names.map fun name => may name .boolean

def flagRecord (name : String) (names : List String) : Shape := .record name (flags names)

/-- What only tells whether it can be registered later. -/
def registration : Shape := flagRecord "DynamicRegistrationClientCapabilities" ["dynamicRegistration"]

def workspaceEdit : Shape :=
  .record "WorkspaceEditClientCapabilities"
    [may "documentChanges" .boolean,
      may "resourceOperations" (.listOf (.choice ["create", "rename", "delete"])),
      may "failureHandling"
        (.choice ["abort", "transactional", "textOnlyTransactional", "undo"]),
      may "normalizesLineEndings" .boolean,
      may "changeAnnotationSupport"
        (flagRecord "ChangeAnnotationWorkspaceEditClientCapabilities" ["groupsOnLabel"])]

def workspaceCapabilities : Shape :=
  .record "WorkspaceClientCapabilities"
    [may "applyEdit" .boolean,
      may "workspaceEdit" workspaceEdit,
      may "didChangeConfiguration" registration,
      may "didChangeWatchedFiles"
        (flagRecord "DidChangeWatchedFilesClientCapabilities"
          ["dynamicRegistration", "relativePatternSupport"]),
      may "symbol" (flagRecord "WorkspaceSymbolClientCapabilities" ["dynamicRegistration"]),
      may "executeCommand" registration,
      may "workspaceFolders" .boolean,
      may "configuration" .boolean,
      may "semanticTokens"
        (flagRecord "SemanticTokensWorkspaceClientCapabilities" ["refreshSupport"]),
      may "codeLens" (flagRecord "CodeLensWorkspaceClientCapabilities" ["refreshSupport"]),
      may "fileOperations"
        (flagRecord "WorkspaceFileOperationsClientCapabilities"
          ["dynamicRegistration", "didCreate", "willCreate", "didRename", "willRename", "didDelete",
            "willDelete"]),
      may "inlineValue" (flagRecord "InlineValueWorkspaceClientCapabilities" ["refreshSupport"]),
      may "inlayHint" (flagRecord "InlayHintWorkspaceClientCapabilities" ["refreshSupport"]),
      may "diagnostic" (flagRecord "DiagnosticWorkspaceClientCapabilities" ["refreshSupport"])]

/-- Capabilities by document feature; of most only the record counts. -/
def documentCapabilities : Shape :=
  .record "TextDocumentClientCapabilities"
    [may "synchronization"
        (flagRecord "TextDocumentSyncClientCapabilities"
          ["dynamicRegistration", "willSave", "willSaveWaitUntil", "didSave"]),
      may "completion"
        (flagRecord "CompletionClientCapabilities" ["dynamicRegistration", "contextSupport"]),
      may "hover" (flagRecord "HoverClientCapabilities" ["dynamicRegistration"]),
      may "signatureHelp"
        (flagRecord "SignatureHelpClientCapabilities" ["dynamicRegistration", "contextSupport"]),
      may "references" registration,
      may "documentHighlight" registration,
      may "documentSymbol"
        (flagRecord "DocumentSymbolClientCapabilities"
          ["dynamicRegistration", "hierarchicalDocumentSymbolSupport"]),
      may "formatting" registration,
      may "rangeFormatting" registration,
      may "onTypeFormatting" registration,
      may "declaration" (flagRecord "GotoCapability" ["dynamicRegistration", "linkSupport"]),
      may "definition" (flagRecord "GotoCapability" ["dynamicRegistration", "linkSupport"]),
      may "typeDefinition" (flagRecord "GotoCapability" ["dynamicRegistration", "linkSupport"]),
      may "implementation" (flagRecord "GotoCapability" ["dynamicRegistration", "linkSupport"]),
      may "codeAction"
        (flagRecord "CodeActionClientCapabilities"
          ["dynamicRegistration", "isPreferredSupport", "disabledSupport", "dataSupport",
            "honorsChangeAnnotations"]),
      may "codeLens" registration,
      may "documentLink"
        (flagRecord "DocumentLinkClientCapabilities" ["dynamicRegistration", "tooltipSupport"]),
      may "colorProvider" registration,
      may "rename"
        (flagRecord "RenameClientCapabilities"
          ["dynamicRegistration", "prepareSupport", "honorsChangeAnnotations"]),
      may "publishDiagnostics"
        (flagRecord "PublishDiagnosticsClientCapabilities"
          ["relatedInformation", "versionSupport", "codeDescriptionSupport", "dataSupport"]),
      may "foldingRange"
        (flagRecord "FoldingRangeClientCapabilities" ["dynamicRegistration", "lineFoldingOnly"]),
      may "selectionRange"
        (flagRecord "SelectionRangeClientCapabilities" ["dynamicRegistration"]),
      may "linkedEditingRange" registration,
      may "callHierarchy" registration,
      may "semanticTokens"
        (flagRecord "SemanticTokensClientCapabilities" ["dynamicRegistration"]),
      may "moniker" registration,
      may "typeHierarchy" registration,
      may "inlineValue" registration,
      may "inlayHint" (flagRecord "InlayHintClientCapabilities" ["dynamicRegistration"]),
      may "diagnostic"
        (flagRecord "DiagnosticClientCapabilities"
          ["dynamicRegistration", "relatedDocumentSupport"])]

def windowCapabilities : Shape :=
  .record "WindowClientCapabilities"
    [may "workDoneProgress" .boolean,
      may "showMessage" (.record "ShowMessageRequestClientCapabilities" []),
      may "showDocument" (.record "ShowDocumentClientCapabilities" [need "support" .boolean])]

def generalCapabilities : Shape :=
  .record "GeneralClientCapabilities"
    [may "regularExpressions"
        (.record "RegularExpressionsClientCapabilities"
          [need "engine" .text, may "version" .text]),
      may "markdown"
        (.record "MarkdownClientCapabilities"
          [need "parser" .text, may "version" .text, may "allowedTags" (.listOf .text)]),
      may "staleRequestSupport"
        (.record "StaleRequestSupportClientCapabilities"
          [need "cancel" .boolean, need "retryOnContentModified" (.listOf .text)]),
      may "positionEncodings" (.listOf .text)]

def clientCapabilities : Shape :=
  .record "ClientCapabilities"
    [may "workspace" workspaceCapabilities,
      may "textDocument" documentCapabilities,
      may "window" windowCapabilities,
      may "general" generalCapabilities,
      may "experimental" .anything]

def workspaceFolder : Shape := .record "WorkspaceFolder" [need "uri" .url, need "name" .text]

def initializeParams : Shape :=
  .record "InitializeParams"
    [may "processId" .unsigned32,
      may "rootPath" .text,
      spare "rootUri" .url,
      may "initializationOptions" .anything,
      need "capabilities" clientCapabilities,
      spare "trace" (.choice ["off", "messages", "verbose"]),
      may "workspaceFolders" (.listOf workspaceFolder),
      may "clientInfo" (.record "ClientInfo" [need "name" .text, may "version" .text]),
      may "locale" .text]

def initializedParams : Shape := .record "InitializedParams" []

def documentIdentifier : Shape := .record "TextDocumentIdentifier" [need "uri" .url]

def didOpenParams : Shape :=
  .record "DidOpenTextDocumentParams"
    [need "textDocument"
      (.record "TextDocumentItem"
        [need "uri" .url, need "languageId" .text, need "version" .signed32, need "text" .text])]

def position : Shape :=
  .record "Position" [need "line" .unsigned32, need "character" .unsigned32]

def didChangeParams : Shape :=
  .record "DidChangeTextDocumentParams"
    [need "textDocument"
        (.record "VersionedTextDocumentIdentifier" [need "uri" .url, need "version" .signed32]),
      need "contentChanges"
        (.listOf (.record "TextDocumentContentChangeEvent"
          [may "range" (.record "Range" [need "start" position, need "end" position]),
            may "rangeLength" .unsigned32, need "text" .text]))]

def didSaveParams : Shape :=
  .record "DidSaveTextDocumentParams" [need "textDocument" documentIdentifier, may "text" .text]

def didCloseParams : Shape :=
  .record "DidCloseTextDocumentParams" [need "textDocument" documentIdentifier]

def didChangeConfigurationParams : Shape :=
  .record "DidChangeConfigurationParams" [need "settings" .anything]

def didChangeWatchedFilesParams : Shape :=
  .record "DidChangeWatchedFilesParams"
    [need "changes" (.listOf (.record "FileEvent" [need "uri" .url, need "type" .signed32]))]

def visibleDocumentsParams : Shape :=
  .record "VisibleDocumentsParams" [need "uris" (.listOf .url)]

end MarkupLint.Shape

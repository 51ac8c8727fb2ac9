import TutorClient.Language

/-!
# Labels

The fixed captions of the screen: names of panels, titles, buttons and
settings. Each label has a text in each language; the tables are total
functions, so a label without a text in some language cannot be written down.

## Main definitions

* `Label`: The labelled elements.
* `Label.all`: All of them in the order they are listed to a front end.
* `Label.text`: The text of a label in a language.
* `InputField`, `InputField.placeholder`: The two text fields and what they
  show while empty.
* `previewCaption`: The caption of the button that shows or hides the code
  preview.
-/

namespace TutorClient

/-- An element of the screen with a fixed caption. -/
inductive Label where
  | navChat
  | navHelp
  | navSimilarity
  | navHistory
  | navSettings
  | chatTitle
  | chatSubtitle
  | welcomeMessage
  | helpTitle
  | helpSubtitle
  | helpPlaceholder
  | similarityTitle
  | similaritySubtitle
  | uploadFile1
  | uploadFile2
  | analyzeButton
  | codePreviewTitle
  | togglePreview
  | file1Preview
  | file2Preview
  | historyTitle
  | refresh
  | loading
  | settingsTitle
  | languageSetting
  | themeSetting
  | processing
  deriving DecidableEq, Repr, Inhabited

namespace Label

/-- Every label, in listing order. -/
def all : List Label :=
  [.navChat, .navHelp, .navSimilarity, .navHistory, .navSettings, .chatTitle, .chatSubtitle,
   .welcomeMessage, .helpTitle, .helpSubtitle, .helpPlaceholder, .similarityTitle,
   .similaritySubtitle, .uploadFile1, .uploadFile2, .analyzeButton, .codePreviewTitle,
   .togglePreview, .file1Preview, .file2Preview, .historyTitle, .refresh, .loading,
   .settingsTitle, .languageSetting, .themeSetting, .processing]

/-- The Chinese text of a label. -/
def chineseText : Label → String
  | .navChat => "聊天"
  | .navHelp => "帮助"
  | .navSimilarity => "查重"
  | .navHistory => "历史"
  | .navSettings => "设置"
  | .chatTitle => "与AI助手聊天"
  | .chatSubtitle => "Lynn是一个智能的程序编程助手，擅长解答各种编程问题"
  | .welcomeMessage => "你好！我是Lynn，你的编程助手。有什么我可以帮助你的吗？"
  | .helpTitle => "C语言帮助"
  | .helpSubtitle => "查询C语言关键字、语法和头文件说明"
  | .helpPlaceholder => "请输入要查询的内容"
  | .similarityTitle => "代码查重"
  | .similaritySubtitle => "上传两个C语言文件，检测代码相似度"
  | .uploadFile1 => "选择第一个文件"
  | .uploadFile2 => "选择第二个文件"
  | .analyzeButton => "分析相似度"
  | .codePreviewTitle => "代码预览"
  | .togglePreview => "隐藏预览"
  | .file1Preview => "文件1"
  | .file2Preview => "文件2"
  | .historyTitle => "操作历史"
  | .refresh => "刷新"
  | .loading => "加载中..."
  | .settingsTitle => "设置"
  | .languageSetting => "界面语言"
  | .themeSetting => "主题"
  | .processing => "处理中..."

/-- The English text of a label. -/
def englishText : Label → String
  | .navChat => "Chat"
  | .navHelp => "Help"
  | .navSimilarity => "Similarity"
  | .navHistory => "History"
  | .navSettings => "Settings"
  | .chatTitle => "Chat with AI Assistant"
  | .chatSubtitle =>
    "Lynn is an intelligent programming assistant, good at answering various programming questions"
  | .welcomeMessage => "Hello! I am Lynn, your programming assistant. How can I help you?"
  | .helpTitle => "C Language Help"
  | .helpSubtitle => "Query C language keywords, syntax and header file descriptions"
  | .helpPlaceholder => "Please enter content to search"
  | .similarityTitle => "Code Similarity Detection"
  | .similaritySubtitle => "Upload two C language files to detect code similarity"
  | .uploadFile1 => "Select First File"
  | .uploadFile2 => "Select Second File"
  | .analyzeButton => "Analyze Similarity"
  | .codePreviewTitle => "Code Preview"
  | .togglePreview => "Hide Preview"
  | .file1Preview => "File 1"
  | .file2Preview => "File 2"
  | .historyTitle => "Operation History"
  | .refresh => "Refresh"
  | .loading => "Loading..."
  | .settingsTitle => "Settings"
  | .languageSetting => "Interface Language"
  | .themeSetting => "Theme"
  | .processing => "Processing..."

/-- The text of a label in a language. -/
def text (language : Language) (label : Label) : String :=
  match language with
  | .chinese => label.chineseText
  | .english => label.englishText

end Label

/-- A text field that tells what to type while it is empty. -/
inductive InputField where
  | chat
  | help
  deriving DecidableEq, Repr

/-- What an empty field shows. -/
def InputField.placeholder : Language → InputField → String
  | .chinese, .chat => "输入你的问题..."
  | .chinese, .help => "输入关键字、语句或头文件名..."
  | .english, .chat => "Type your question..."
  | .english, .help => "Enter keywords, statements or header file names..."

/-- What the preview button does next, given whether the preview is shown. -/
def previewCaption : Language → Bool → String
  | .chinese, true => "隐藏预览"
  | .chinese, false => "显示预览"
  | .english, true => "Hide Preview"
  | .english, false => "Show Preview"

end TutorClient

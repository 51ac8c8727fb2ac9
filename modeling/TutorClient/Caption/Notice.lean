import TutorClient.Language

/-!
# Notices

The texts the client composes while it runs: what a notification says, what
stands in place of a result, and the words around one. As with labels, every
notice has a text in every language.

## Main definitions

* `Notice`: The things the client may have to say.
* `Notice.all`: All of them, in declaration order.
* `Notice.text`: The text of a notice in a language.
-/

namespace TutorClient

/-- Something the client says while it runs. -/
inductive Notice where
  | chatUnavailable
  | sendFailed
  | emptyQuery
  | noResults
  | searchFailed
  | fileReadFailed
  | selectTwoFiles
  | analysisFailed
  | analysisFailedRetry
  | similarityCaption
  | fileSelected
  | historyEmpty
  | historyLoadFailed
  | historyFailedRetry
  | languageChanged
  | languageChangeFailed
  | unexpectedError
  | thinking
  deriving DecidableEq, Repr, Inhabited

namespace Notice

/-- Every notice, in declaration order. -/
def all : List Notice :=
  [.chatUnavailable, .sendFailed, .emptyQuery, .noResults, .searchFailed, .fileReadFailed,
   .selectTwoFiles, .analysisFailed, .analysisFailedRetry, .similarityCaption, .fileSelected,
   .historyEmpty, .historyLoadFailed, .historyFailedRetry, .languageChanged,
   .languageChangeFailed, .unexpectedError, .thinking]

/-- The Chinese text of a notice. -/
def chineseText : Notice → String
  | .chatUnavailable => "聊天服务暂时不可用"
  | .sendFailed => "发送消息失败，请检查网络连接"
  | .emptyQuery => "请输入要查询的内容"
  | .noResults => "未找到相关结果"
  | .searchFailed => "搜索失败，请重试"
  | .fileReadFailed => "文件读取失败，请重试"
  | .selectTwoFiles => "请选择两个文件"
  | .analysisFailed => "分析失败"
  | .analysisFailedRetry => "分析失败，请重试"
  | .similarityCaption => "相似度"
  | .fileSelected => "已选择"
  | .historyEmpty => "暂无历史记录"
  | .historyLoadFailed => "加载历史记录失败"
  | .historyFailedRetry => "加载失败，请重试"
  | .languageChanged => "语言已切换"
  | .languageChangeFailed => "切换语言失败"
  | .unexpectedError => "出现了一个错误，请重试"
  | .thinking => "思考中"

/-- The English text of a notice. -/
def englishText : Notice → String
  | .chatUnavailable => "Chat service is temporarily unavailable"
  | .sendFailed => "Failed to send message, please check your network connection"
  | .emptyQuery => "Please enter content to search"
  | .noResults => "No results found"
  | .searchFailed => "Search failed, please try again"
  | .fileReadFailed => "Failed to read file, please try again"
  | .selectTwoFiles => "Please select two files"
  | .analysisFailed => "Analysis failed"
  | .analysisFailedRetry => "Analysis failed, please try again"
  | .similarityCaption => "Similarity"
  | .fileSelected => "Selected"
  | .historyEmpty => "No history yet"
  | .historyLoadFailed => "Failed to load history"
  | .historyFailedRetry => "Loading failed, please try again"
  | .languageChanged => "Language switched"
  | .languageChangeFailed => "Failed to switch language"
  | .unexpectedError => "Something went wrong, please try again"
  | .thinking => "Thinking"

/-- The text of a notice in a language. -/
def text (language : Language) (notice : Notice) : String :=
  match language with
  | .chinese => notice.chineseText
  | .english => notice.englishText

end Notice

end TutorClient

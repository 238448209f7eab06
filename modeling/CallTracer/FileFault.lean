import CallTracer.Text
/-! Why a file could not be read or written, in the words of the operating system. -/
namespace CallTracer

inductive FileFault
  | notFound
  | notDirectory
  | isDirectory
  | noSpace
  | nameTooLong
  | zeroInName
  | notText
  | other (message : Text)
  deriving DecidableEq, Repr

def FileFault.message : FileFault → Text
  | notFound => "No such file or directory (os error 2)".toList
  | notDirectory => "Not a directory (os error 20)".toList
  | isDirectory => "Is a directory (os error 21)".toList
  | noSpace => "No space left on device (os error 28)".toList
  | nameTooLong => "File name too long (os error 36)".toList
  | zeroInName => "file name contained an unexpected NUL byte".toList
  | notText => "stream did not contain valid UTF-8".toList
  | other message => message

end CallTracer

import FolderTalk.Store.Basic

/-!
# The seed tree

The files and folders that a new session starts from and that a reset restores.
-/

namespace FolderTalk.Store

def seedFiles : List FileEntry :=
  [⟨1, "vacation.png", .image, "2.3 MB", none⟩,
   ⟨2, "report.pdf", .document, "450 KB", none⟩,
   ⟨3, "song.mp3", .audio, "5.1 MB", none⟩,
   ⟨4, "presentation.pptx", .document, "8.2 MB", none⟩,
   ⟨5, "photo1.jpg", .image, "3.4 MB", none⟩,
   ⟨6, "video.mp4", .video, "45 MB", none⟩,
   ⟨7, "screenshot.png", .image, "1.2 MB", none⟩,
   ⟨8, "notes.txt", .document, "12 KB", none⟩]

def seedFolders : List Folder :=
  [⟨"images", "Images", "bg-blue-500", none⟩,
   ⟨"documents", "Documents", "bg-green-500", none⟩,
   ⟨"media", "Media", "bg-purple-500", none⟩]

/-- The tree of a session that nobody has used. -/
def seed : Store := ⟨seedFiles, seedFolders⟩

end FolderTalk.Store
